import ContractBindings.Binding.Classification

/-!
# Declarations

A declaration shows a method or event as the contract's source would, with the registered
tuples replaced by their display names, for instance
`function balanceOf(address owner) constant returns(uint256)`. Bound methods and events are
declared when all structs are there (`Classification.declared`).
-/

namespace ContractBindings

/-- The array and slice layers of a type, the outermost first. -/
def AbiType.layers : AbiType → List Char
  | array element size => '[' :: Nat.toDigits 10 size ++ [']'] ++ element.layers
  | slice element => '[' :: ']' :: element.layers
  | _ => []

/-- A type in a declaration: its layers and the display name of the innermost type where that
is registered, and its canonical signature otherwise. -/
def declaredType (structs : StructRegistry) (type : AbiType) : String :=
  match structs.get? type.innermost.signature with
  | some struct => .ofList type.layers ++ struct.name
  | none => type.signature

/-- A parameter in a declaration. -/
def declaredParameter (structs : StructRegistry) (indexed : Bool) (parameter : AbiParameter) :
    String :=
  declaredType structs parameter.type ++ (if indexed then " indexed" else "") ++
    if parameter.name.isEmpty then "" else " " ++ parameter.name

/-- The parameters of a function in a declaration. -/
def declaredParameters (structs : StructRegistry) (parameters : List AbiParameter) : String :=
  ", ".intercalate (parameters.map (declaredParameter structs false))

/-- The declaration of a function. -/
def AbiFunction.declaration (structs : StructRegistry) (f : AbiFunction) : String :=
  "function " ++ f.name ++ "(" ++ declaredParameters structs f.inputs ++ ") " ++
    (if f.isConstant then "constant " else "") ++
    "returns(" ++ declaredParameters structs f.outputs ++ ")"

/-- The declaration of a constructor. -/
def AbiFunction.constructorDeclaration (structs : StructRegistry) (f : AbiFunction) : String :=
  "constructor(" ++ declaredParameters structs f.inputs ++ ")"

/-- The declaration of an event. -/
def AbiEvent.declaration (structs : StructRegistry) (e : AbiEvent) : String :=
  let inputs := e.inputs.map fun input => declaredParameter structs input.indexed input
  "event " ++ e.name ++ "(" ++ ", ".intercalate inputs ++ ")"

/-! ### Declared classifications -/

section Declared

variable (structs : StructRegistry)

/-- A method with its declaration. -/
def BoundMethod.declared (method : BoundMethod) : BoundMethod :=
  { method with declaration := method.function.declaration structs }

/-- A constructor with its declaration. -/
def BoundMethod.declaredConstructor (method : BoundMethod) : BoundMethod :=
  { method with declaration := method.function.constructorDeclaration structs }

/-- An event with its declaration. -/
def BoundEvent.declared (event : BoundEvent) : BoundEvent :=
  { event with declaration := event.event.declaration structs }

/-- A classification in which everything that is bound has its declaration. -/
def Classification.declared (result : Classification) : Classification :=
  { result with
    calls := result.calls.map fun _ method => method.declared structs
    transacts := result.transacts.map fun _ method => method.declared structs
    events := result.events.map fun _ event => event.declared structs
    constructor := result.constructor.map (·.declaredConstructor structs) }

end Declared

end ContractBindings
