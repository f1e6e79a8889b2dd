import ContractBindings.TextMap

/-!
# JSON values

`Json` is what a JSON document denotes. A number is an integer or a floating-point number,
according to how it was written. The members of an object are a list; `Json.get?` finds the
first member of a name, and a reader of documents lists each name once, in ascending order.
-/

namespace ContractBindings

/-- **Number** of a JSON document. -/
inductive JsonNumber where
  /-- A whole number. -/
  | integer (value : Int)
  /-- A number with a fraction or an exponent, or one too large for a whole number. -/
  | float (value : Float)

/-- **JSON value**. -/
inductive Json where
  /-- The null value. -/
  | null
  /-- A truth value. -/
  | bool (value : Bool)
  /-- A number. -/
  | number (value : JsonNumber)
  /-- A text. -/
  | string (value : String)
  /-- An array of values. -/
  | array (items : List Json)
  /-- An object: named values. -/
  | object (members : List (String × Json))

namespace Json

instance : Inhabited Json := ⟨.null⟩

/-- The natural number `n` as a JSON value. -/
def ofNat (n : Nat) : Json := .number (.integer n)

/-- A text, or null where there is none. -/
def ofOption : Option String → Json
  | some text => .string text
  | none => .null

/-- A map as an object, given the form of its values. -/
def ofMap {α : Type} (render : α → Json) (map : TextMap α) : Json :=
  .object (map.map fun _ value => render value).entries

/-- The first member with the given name; only objects have members. -/
def get? (value : Json) (name : String) : Option Json :=
  match value with
  | .object members => members.lookup name
  | _ => none

end Json

end ContractBindings
