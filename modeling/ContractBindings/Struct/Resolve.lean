import ContractBindings.Language.Types
import ContractBindings.Struct.Registry

/-!
# Mapping types into a target language

`mapType` gives the bound type of an ABI type. Tuples become structs: the first tuple of a
signature is registered behind the tuples inside it, and any later one takes the name that is
already there.

The computations run in `Resolve`, which carries the registry along and may fail. **What was
registered before a failure stays registered.**
-/

namespace ContractBindings

/-- Computation that may register structs and may fail. -/
abbrev Resolve := ExceptT BindError (StateM StructRegistry)

/-- The computation that has the given result and leaves the registry as it is. -/
def Resolve.ofExcept {α : Type} (result : Except BindError α) : Resolve α :=
  ExceptT.mk (pure result)

/-- The fields of a struct, from the tuple's fields and their bound types. -/
def structFields (language : Language) (fields : TupleFields) (boundTypes : List String) :
    List StructField :=
  let names := language.fieldNames (fields.map (·.1))
  (names.zip (boundTypes.zip (fields.map (·.2)))).map fun (name, boundType, abiType) =>
    ⟨name, boundType, abiType⟩

/-- The display name of the struct for a tuple. If the tuple is new, its fields are mapped by
`mapAll` and it is registered. -/
def intern (language : Language) (fields : TupleFields) (mapAll : Resolve (List String)) :
    Resolve String := do
  let signature := (AbiType.tuple fields).signature
  match (← get).get? signature with
  | some struct => return struct.name
  | none =>
    let boundTypes ← mapAll
    let registry ← get
    set (registry.add language.structStem signature (structFields language fields boundTypes))
    return registry.nextName language.structStem signature

mutual

/-- The **bound type** of an ABI type. -/
def mapType (language : Language) : AbiType → Resolve String
  | .elementary kind => .ofExcept (language.elementaryType kind)
  | .array element size => do
    let bound ← mapType language element
    return language.arrayType bound size
  | .slice element => do
    let bound ← mapType language element
    return language.sliceType bound
  | .tuple fields =>
    if language.hasRecords then intern language fields (mapFields language fields)
    else throw (.unsupportedTuple language (AbiType.tuple fields).signature)

/-- The bound types of a tuple's fields. -/
def mapFields (language : Language) : List (String × AbiType) → Resolve (List String)
  | [] => return []
  | (_, type) :: rest => do
    let bound ← mapType language type
    return bound :: (← mapFields language rest)

end

/-- The bound type of an indexed event parameter: a text or a byte sequence of any length is
in the log as a hash only. -/
def mapTopicType (language : Language) (type : AbiType) : Resolve String := do
  let bound ← mapType language type
  return if type.isHashedTopic then language.hashType else bound

/-- The display name of the struct for a type that has to be a tuple, whatever the language
does with tuples elsewhere. -/
def resolveStruct (language : Language) : AbiType → Resolve String
  | .tuple fields => intern language fields (mapFields language fields)
  | type => throw (.malformedType (.notTuple type.signature))

/-- The bound type of a type that has to be a tuple. -/
def resolveTuple (language : Language) (type : AbiType) : Resolve String :=
  if language.hasRecords then resolveStruct language type
  else throw (.unsupportedTuple language type.signature)

end ContractBindings
