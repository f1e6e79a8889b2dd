import ContractBindings.Json.Shape
import ContractBindings.Json.Surplus

/-!
# JSON documents

A `Document` is the tree of a JSON text before its numbers and strings are interpreted, and
with the members of objects as they are written. `Document.ofShapedText?` builds it in one
pass over the text, with a stack of the containers that are still open. The shape of the
document tells where a byte sequence may be closed behind a surplus item; `Document.ofText?`
is for documents in which none is expected.
-/

namespace ContractBindings

/-- **Document**: the tree of a JSON text. -/
inductive Document where
  /-- The word for null. -/
  | null
  /-- The word for a truth value. -/
  | bool (value : Bool)
  /-- A number. -/
  | number (literal : NumberLiteral)
  /-- A string. -/
  | string (units : List StringUnit)
  /-- An array. -/
  | array (items : List Document)
  /-- An object; a name may stand several times. -/
  | object (members : List (List StringUnit × Document))

namespace Document

/-- Container that is still open. -/
inductive Frame where
  /-- An array with its items so far, the latest first. -/
  | array (shape : Shape) (items : List Document)
  /-- An object with its members so far, the latest first, and the name of the next one. -/
  | object (shape : Shape) (members : List (List StringUnit × Document))
      (name : List StringUnit)

/-- What has to come next. -/
inductive State where
  /-- A value. -/
  | value (shape : Shape) (stack : List Frame)
  /-- The first item of an array, or its end. -/
  | firstItem (shape : Shape) (stack : List Frame)
  /-- The end of a byte sequence that is complete, behind a surplus item. -/
  | surplus (items : List Document) (stack : List Frame)
  /-- The first name of an object, or its end. -/
  | firstName (shape : Shape) (stack : List Frame)
  /-- The next name of an object. -/
  | name (shape : Shape) (members : List (List StringUnit × Document)) (stack : List Frame)
  /-- The colon behind a name. -/
  | colon (shape : Shape) (members : List (List StringUnit × Document))
      (name : List StringUnit) (stack : List Frame)
  /-- What may follow a value. -/
  | done (value : Document) (stack : List Frame)

/-! ### Tokens -/

/-- Takes a token where a value has to start. -/
def startValue (shape : Shape) (stack : List Frame) : Token → Option State
  | .null => some (.done .null stack)
  | .bool b => some (.done (.bool b) stack)
  | .number literal => some (.done (.number literal) stack)
  | .string units => some (.done (.string units) stack)
  | .openArray => some (.firstItem shape stack)
  | .openObject => some (.firstName shape stack)
  | _ => none

/-- What has to come behind a comma in an array. -/
def nextItem (shape : Shape) (items : List Document) (stack : List Frame) : State :=
  if shape.isComplete items then .surplus items stack
  else .value (shape.item items) (.array shape items :: stack)

/-- The shape of the value of a member. -/
def memberShape (shape : Shape) (name : List StringUnit) : Shape :=
  match unitText? name with
  | some name => shape.member name
  | none => .any

/-- Takes a token behind a value. -/
def continueValue (value : Document) : List Frame → Token → Option State
  | .array shape items :: stack, .comma => some (nextItem shape (value :: items) stack)
  | .array _ items :: stack, .closeArray => some (.done (.array (value :: items).reverse) stack)
  | .object shape members name :: stack, .comma =>
    some (.name shape ((name, value) :: members) stack)
  | .object _ members name :: stack, .closeObject =>
    some (.done (.object ((name, value) :: members).reverse) stack)
  | _, _ => none

/-- Takes the next token. -/
def step : State → Token → Option State
  | .value shape stack, token => startValue shape stack token
  | .firstItem _ stack, .closeArray => some (.done (.array []) stack)
  | .firstItem shape stack, token =>
    startValue (shape.item ([] : List Document)) (.array shape [] :: stack) token
  | .firstName _ stack, .closeObject => some (.done (.object []) stack)
  | .firstName shape stack, .string units => some (.colon shape [] units stack)
  | .name shape members stack, .string units => some (.colon shape members units stack)
  | .colon shape members name stack, .colon =>
    some (.value (memberShape shape name) (.object shape members name :: stack))
  | .done value stack, token => continueValue value stack token
  | _, _ => none

/-! ### Texts -/

/-- Takes what comes next in a text that starts with no blank, and gives what follows. -/
def advance : State → List Char → Option (State × List Char)
  | .surplus items stack, text =>
    (Surplus.close? text).map fun rest => (.done (.array items.reverse) stack, rest)
  | state, text => do
    let (token, rest) ← Token.scanOne text
    return (← step state token, rest)

/-- The state behind a text that needs at most `steps` steps. -/
def readWithin : (steps : Nat) → State → List Char → Option State
  | 0, _, _ => none
  | steps + 1, state, text =>
    match text.dropWhile Token.isSpace with
    | [] => some state
    | c :: rest =>
      match advance state (c :: rest) with
      | some (state, rest) => readWithin steps state rest
      | none => none

/-- The document of a JSON text of the given shape. Every step takes a character, so the
length of the text bounds the steps. -/
def ofShapedText? (shape : Shape) (text : String) : Option Document :=
  let chars := text.toList
  match readWithin (chars.length + 1) (.value shape []) chars with
  | some (.done value []) => some value
  | _ => none

/-- The document of a JSON text in which no byte sequence is expected. -/
def ofText? (text : String) : Option Document := ofShapedText? .any text

end Document

end ContractBindings
