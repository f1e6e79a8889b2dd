import ContractBindings.Abi.Contract
import ContractBindings.Abi.TypeText
import ContractBindings.Json.Member

/-!
# Reading parameters

A parameter is an object with a name, the text of a type, and for tuples the components of
the type, which are parameters again. Its members are looked at in a fixed order, so that of
several faults the first in that order is reported; the text of the type comes last.
-/

namespace ContractBindings

/-- The members of a parameter apart from its type's components. -/
structure ParameterHeader where
  /-- The name. -/
  name : String
  /-- The text of the type. -/
  typeText : String
  /-- The type as the contract's source names it. -/
  internalType : Option String
  /-- Whether the value is a topic of the log entry. -/
  indexed : Bool

namespace ParameterHeader

/-- Reads the members of a parameter apart from its type's components. -/
def ofJson (value : Json) : Except BindError ParameterHeader := do
  if !value.isObject then
    throw (.invalidAbi .parameterNotObject)
  let name ← value.textMember "name"
  match ← value.textMember "type" with
  | none => throw (.invalidAbi .parameterWithoutType)
  | some typeText =>
    let internalType ← value.textMember "internalType"
    let indexed ← value.boolMember "indexed"
    return ⟨name.getD "", typeText, internalType, indexed.getD false⟩

/-- Whether components are looked for: only where the type, blanks included, starts with
the word for tuples. -/
def readsComponents (header : ParameterHeader) : Bool :=
  (afterStart? "tuple".toList header.typeText.toList).isSome

/-- The parameter whose tuple components are given. -/
def withComponents (header : ParameterHeader) (components : Option TupleFields) :
    Except BindError AbiParameter := do
  let type ← AbiType.parse header.typeText components
  return ⟨header.name, type, header.internalType, header.indexed⟩

end ParameterHeader

namespace AbiParameter

mutual

/-- Reads a parameter. -/
def ofJson (value : Json) : Except BindError AbiParameter := do
  let header ← ParameterHeader.ofJson value
  if header.readsComponents then
    match value with
    | .object members => header.withComponents (← componentsAmong members)
    | _ => header.withComponents none
  else
    header.withComponents none

/-- Reads the components that stand among some members. -/
def componentsAmong : List (String × Json) → Except BindError (Option TupleFields)
  | [] => .ok none
  | (name, value) :: rest =>
    if name = "components" then components value else componentsAmong rest

/-- Reads the value of a `components` member. -/
def components : Json → Except BindError (Option TupleFields)
  | .null => .ok none
  | .array items => some <$> fieldsOfJson items
  | found => .error (.invalidAbi (.wrongMember "components" .array found))

/-- Reads a list of parameters as the fields of a tuple. -/
def fieldsOfJson : List Json → Except BindError TupleFields
  | [] => .ok []
  | item :: rest => do
    let parameter ← ofJson item
    return parameter.field :: (← fieldsOfJson rest)

end

/-- Reads the parameters that stand in a member of an entry; an entry without that member
has none. -/
def listOfMember (entry : Json) (name : String) : Except BindError (List AbiParameter) := do
  match ← entry.arrayMember name with
  | some items => items.mapM ofJson
  | none => return []

end AbiParameter

end ContractBindings
