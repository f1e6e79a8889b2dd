import ContractBindings.Error

/-!
# Members of a given kind

The members of a JSON object that has to follow a pattern. A member that is absent or null
counts as not given; a member of another kind than the expected one is a fault.
-/

namespace ContractBindings

namespace Json

/-- A member that `cast` accepts; absent and null members count as not given. -/
def member? {α : Type} (cast : Json → Option α) (kind : MemberKind) (value : Json)
    (name : String) : Except BindError (Option α) :=
  match value.get? name with
  | none => .ok none
  | some .null => .ok none
  | some found =>
    match cast found with
    | some a => .ok (some a)
    | none => .error (.invalidAbi (.wrongMember name kind found))

/-- The text of a string. -/
def text? : Json → Option String
  | .string text => some text
  | _ => none

/-- The value of a truth value. -/
def bool? : Json → Option Bool
  | .bool b => some b
  | _ => none

/-- The items of an array. -/
def items? : Json → Option (List Json)
  | .array items => some items
  | _ => none

/-- A member that is a text. -/
def textMember (value : Json) (name : String) : Except BindError (Option String) :=
  member? text? .string value name

/-- A member that is a truth value. -/
def boolMember (value : Json) (name : String) : Except BindError (Option Bool) :=
  member? bool? .boolean value name

/-- A member that is an array. -/
def arrayMember (value : Json) (name : String) : Except BindError (Option (List Json)) :=
  member? items? .array value name

/-- Whether a value is an object. -/
def isObject : Json → Bool
  | .object _ => true
  | _ => false

end Json

end ContractBindings
