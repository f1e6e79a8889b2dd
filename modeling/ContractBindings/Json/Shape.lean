import ContractBindings.Json.Token

/-!
# Shapes of documents

A `Shape` tells where in a document byte sequences of a known size are expected. It does not
restrict the document in any other way.
-/

namespace ContractBindings

/-- **Shape** of a document. -/
inductive Shape where
  /-- No byte sequence is expected. -/
  | any
  /-- A byte sequence of the given size. -/
  | bytes (size : Nat)
  /-- A record with the given fields, in order. -/
  | record (fields : List (String × Shape))
  /-- A map whose values have a shape. -/
  | map (values : Shape)

namespace Shape

/-- The shape of the item behind the given ones. A record may be written as an array of its
fields. -/
def item {α : Type} (items : List α) : Shape → Shape
  | record fields => (fields[items.length]?.map Prod.snd).getD any
  | _ => any

/-- The shape of a member. -/
def member (name : String) : Shape → Shape
  | record fields => (fields.lookup name).getD any
  | map values => values
  | _ => any

/-- Whether the given items complete a byte sequence. -/
def isComplete {α : Type} (items : List α) : Shape → Bool
  | bytes size => items.length == size
  | _ => false

end Shape

end ContractBindings
