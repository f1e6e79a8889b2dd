import ContractBindings.Abi.Parameter

/-!
# Reading ABI documents

`ContractAbi.ofJson` reads a JSON value as a contract ABI: an array of entries, each an
object. Entries, and the members of an entry, are looked at in a fixed order, so that of
several faults the first in that order is reported.

Entries for errors and for the fallback and receive functions have no binding and are
skipped unread. Of several constructors the last one counts.
-/

namespace ContractBindings

/-! ### Functions and events -/

/-- The mutability of a function: its own word for it, or else what the two older flags
say. -/
def StateMutability.decide (word : Option String) (constant payable : Bool) :
    Except BindError StateMutability :=
  match word with
  | some text =>
    match StateMutability.ofText? text with
    | some mutability => .ok mutability
    | none => .error (.invalidAbi (.unknownMutability text))
  | none => .ok (if constant then .view else if payable then .payable else .nonpayable)

namespace AbiFunction

/-- Reads the members of a function or constructor whose name is given. -/
def ofNamedJson (name : String) (entry : Json) : Except BindError AbiFunction := do
  let inputs ← AbiParameter.listOfMember entry "inputs"
  let outputs ← AbiParameter.listOfMember entry "outputs"
  let constant ← entry.boolMember "constant"
  let payable ← entry.boolMember "payable"
  let word ← entry.textMember "stateMutability"
  let mutability ← StateMutability.decide word (constant.getD false) (payable.getD false)
  return ⟨name, inputs, outputs, mutability⟩

/-- Reads a function. -/
def ofJson (entry : Json) : Except BindError AbiFunction := do
  match ← entry.textMember "name" with
  | some name => ofNamedJson name entry
  | none => throw (.invalidAbi .functionWithoutName)

/-- Reads a constructor; it may do without a name. -/
def constructorOfJson (entry : Json) : Except BindError AbiFunction := do
  let name ← entry.textMember "name"
  ofNamedJson (name.getD "") entry

end AbiFunction

/-- Reads an event. -/
def AbiEvent.ofJson (entry : Json) : Except BindError AbiEvent := do
  match ← entry.textMember "name" with
  | none => throw (.invalidAbi .eventWithoutName)
  | some name =>
    let inputs ← AbiParameter.listOfMember entry "inputs"
    let anonymous ← entry.boolMember "anonymous"
    return ⟨name, inputs, anonymous.getD false⟩

/-! ### Entries -/

/-- **Entry** of an ABI. -/
inductive AbiEntry where
  /-- A constructor. -/
  | constructor (f : AbiFunction)
  /-- A function. -/
  | function (f : AbiFunction)
  /-- An event. -/
  | event (e : AbiEvent)
  /-- An entry without a binding. -/
  | unbound

/-- The kinds of entry that have no binding. -/
def unboundKinds : List String := ["error", "fallback", "receive"]

/-- Reads an entry; without a kind it is a function. -/
def AbiEntry.ofJson (entry : Json) : Except BindError AbiEntry := do
  if !entry.isObject then
    throw (.invalidAbi .entryNotObject)
  let kind := (← entry.textMember "type").getD "function"
  if kind = "constructor" then
    return .constructor (← AbiFunction.constructorOfJson entry)
  else if kind = "function" then
    return .function (← AbiFunction.ofJson entry)
  else if kind = "event" then
    return .event (← AbiEvent.ofJson entry)
  else if kind ∈ unboundKinds then
    return .unbound
  else
    throw (.invalidAbi (.unknownEntry kind))

/-! ### Contracts -/

namespace ContractAbi

/-- The ABI that some entries make up. -/
def ofEntries (entries : List AbiEntry) : ContractAbi where
  constructor := (entries.filterMap fun
    | .constructor f => some f
    | _ => none).getLast?
  functions := entries.filterMap fun
    | .function f => some f
    | _ => none
  events := entries.filterMap fun
    | .event e => some e
    | _ => none

/-- Reads a contract ABI. -/
def ofJson (value : Json) : Except BindError ContractAbi :=
  match value with
  | .array items => ofEntries <$> items.mapM AbiEntry.ofJson
  | _ => .error (.invalidAbi .notArray)

end ContractAbi

end ContractBindings
