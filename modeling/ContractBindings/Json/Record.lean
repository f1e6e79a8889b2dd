import ContractBindings.Json.Reader

/-!
# Reading records from documents

A record with known fields is written as an object or as an array of its fields in order.
`Document.fields?` finds the fields of either form. In an object a known field stands at most
once, and members of other names are not looked into: they have to follow the grammar and no
more. The other readers here take texts, truth values and maps.
-/

namespace ContractBindings

namespace Document

/-- The text of a string. -/
def text? : Document → Option String
  | string units => unitText? units
  | _ => none

/-- The value of a truth value. -/
def bool? : Document → Option Bool
  | bool value => some value
  | _ => none

/-- The members of an object, with their names read. -/
def namedMembers? (members : List (List StringUnit × Document)) :
    Option (List (String × Document)) :=
  members.mapM fun (units, value) => (unitText? units).map (·, value)

/-- The value of the member of the given name, if it stands once; fails if it stands more
often. -/
def uniqueMember? (members : List (String × Document)) (name : String) :
    Option (Option Document) :=
  match members.filter (·.1 == name) with
  | [] => some none
  | [member] => some (some member.2)
  | _ => none

/-- The fields of a record, in the given order; fields that are not written are none. -/
def fields? (names : List String) : Document → Option (List (Option Document))
  | object members => do
    let named ← namedMembers? members
    names.mapM (uniqueMember? named)
  | array items =>
    if items.length ≤ names.length then
      some (items.map some ++ List.replicate (names.length - items.length) none)
    else
      none
  | _ => none

/-- A map whose values are read by `read`; of a key that stands several times the last value
counts. -/
def map? {α : Type} (read : Document → Option α) : Document → Option (TextMap α)
  | object members => do
    let named ← namedMembers? members
    let pairs ← named.mapM fun (name, value) => (read value).map (name, ·)
    return .ofList pairs
  | _ => none

/-- One of several words, read by `ofTag?`. It may also stand as the only name of an object,
with null for its value. -/
def word? {α : Type} (ofTag? : String → Option α) : Document → Option α
  | string units => unitText? units >>= ofTag?
  | object [(units, null)] => unitText? units >>= ofTag?
  | _ => none

/-- A field that `read` accepts, or a fallback where it is not written. -/
def fieldOr {α : Type} (fallback : α) (read : Document → Option α) :
    Option Document → Option α
  | none => some fallback
  | some value => read value

end Document

end ContractBindings
