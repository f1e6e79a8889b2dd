import ContractBindings.Abi.AbiType
import ContractBindings.Json.Printer
import ContractBindings.Language

/-!
# Faults

What can go wrong on the way from an ABI to its bindings, by cause. Each family of causes
has one function that words it, and `BindError.message` is the text that a user sees.
-/

namespace ContractBindings

/-! ### Types -/

/-- Cause of a malformed type descriptor. -/
inductive TypeFault where
  /-- A width that no contract can declare. -/
  | width (fault : WidthFault)
  /-- A closing bracket without an opening one. -/
  | unbalancedSuffix (text : String)
  /-- An array length that is no numeral of a 64-bit word. -/
  | arrayLength (length text : String)
  /-- An integer type whose width is not a run of digits. -/
  | noIntegerWidth (text : String)
  /-- An integer width beyond a 64-bit word. -/
  | hugeIntegerWidth (text : String)
  /-- A byte sequence whose size is not a run of digits. -/
  | noFixedBytesSize (text : String)
  /-- A size of a byte sequence beyond a 64-bit word. -/
  | hugeFixedBytesSize (text : String)
  /-- A base type that no ABI has. -/
  | unknownBase (text : String)
  /-- A type given where only a tuple has a meaning. -/
  | notTuple (signature : String)
  /-- A type given where only an elementary type has a meaning. -/
  | notElementary (signature : String)
  deriving DecidableEq, Repr

/-- The wording of a width fault. -/
def WidthFault.message : WidthFault → String
  | integerBits bits => s!"integer width {bits} is not a multiple of 8 in 8..=256"
  | fixedBytes size => s!"fixed bytes size {size} is outside 1..=32"

/-- The wording of a type fault. -/
def TypeFault.message : TypeFault → String
  | width fault => fault.message
  | unbalancedSuffix text => s!"unbalanced array suffix in '{text}'"
  | arrayLength length text => s!"invalid array length '{length}' in '{text}'"
  | noIntegerWidth text => s!"'{text}' has no valid integer width"
  | hugeIntegerWidth text => s!"invalid integer width in '{text}'"
  | noFixedBytesSize text => s!"'{text}' is not a fixed bytes type"
  | hugeFixedBytesSize text => s!"invalid bytes size in '{text}'"
  | unknownBase text => s!"unknown ABI type '{text}'"
  | notTuple signature => s!"'{signature}' is not a tuple type"
  | notElementary signature => s!"'{signature}' is not an elementary type"

/-! ### ABI documents -/

/-- A kind of JSON value that a member of an ABI entry has to have. -/
inductive MemberKind where
  /-- A text. -/
  | string
  /-- A truth value. -/
  | boolean
  /-- An array. -/
  | array
  deriving DecidableEq, Repr

/-- The wording of a member kind, with its article. -/
def MemberKind.message : MemberKind → String
  | string => "a string"
  | boolean => "a boolean"
  | array => "an array"

/-- Cause of an invalid ABI. -/
inductive AbiFault where
  /-- A text that is no JSON document. -/
  | notJson
  /-- A document that is no array. -/
  | notArray
  /-- An entry that is no object. -/
  | entryNotObject
  /-- An entry of a kind that no ABI has. -/
  | unknownEntry (kind : String)
  /-- A function without a name. -/
  | functionWithoutName
  /-- An event without a name. -/
  | eventWithoutName
  /-- A state mutability that no function has. -/
  | unknownMutability (text : String)
  /-- A parameter that is no object. -/
  | parameterNotObject
  /-- A parameter without a type. -/
  | parameterWithoutType
  /-- A tuple without components. -/
  | tupleWithoutComponents
  /-- A member of the wrong kind. -/
  | wrongMember (name : String) (expected : MemberKind) (found : Json)

/-- The wording of an ABI fault. -/
def AbiFault.message : AbiFault → String
  | notJson => "ABI is not valid JSON"
  | notArray => "ABI must be an array"
  | entryNotObject => "ABI entries must be objects"
  | unknownEntry kind => s!"unknown ABI entry type '{kind}'"
  | functionWithoutName => "Function must have a name"
  | eventWithoutName => "Event must have a name"
  | unknownMutability text => s!"unknown state mutability '{text}'"
  | parameterNotObject => "Parameters must be objects"
  | parameterWithoutType => "Parameter must have a type"
  | tupleWithoutComponents => "tuple type declared without components"
  | wrongMember name expected found =>
    s!"'{name}' must be {expected.message}, got {found.compact}"

/-! ### Configurations -/

/-- Cause of an invalid configuration. -/
inductive ConfigFault where
  /-- Customizations for a contract without a name. -/
  | emptyContractName
  /-- A struct name for something that is no tuple signature. -/
  | tupleSignature (contract signature : String)
  /-- A struct name that is no identifier. -/
  | structName (contract name : String)
  /-- An import without an alias or a path. -/
  | importEntry (contract key : String)
  deriving DecidableEq, Repr

/-- The wording of a configuration fault. -/
def ConfigFault.message : ConfigFault → String
  | emptyContractName => "Contract name in customs cannot be empty"
  | tupleSignature contract signature =>
    s!"Invalid tuple signature '{signature}' in customs for contract '{contract}'"
  | structName contract name =>
    s!"Invalid struct name '{name}' in customs for contract '{contract}'"
  | importEntry contract key =>
    s!"Invalid import '{key}' in customs for contract '{contract}'"

/-! ### All faults -/

/-- **Fault** of a binding run. -/
inductive BindError where
  /-- A type that cannot be read or mapped. -/
  | malformedType (fault : TypeFault)
  /-- A tuple, in a language whose bindings have no records. -/
  | unsupportedTuple (language : Language) (signature : String)
  /-- Two tuple shapes under one struct name. -/
  | duplicateStruct (name first second : String)
  /-- A document that is no ABI. -/
  | invalidAbi (fault : AbiFault)
  /-- A configuration that does not hold together. -/
  | config (fault : ConfigFault)
  /-- A configuration or deployment that cannot be read. -/
  | serialization

/-- The text of a fault. -/
def BindError.message : BindError → String
  | malformedType fault => s!"Malformed type descriptor: {fault.message}"
  | unsupportedTuple language signature =>
    s!"{language.tag} binding for tuple type {signature} is not supported"
  | duplicateStruct name first second =>
    s!"Duplicate struct name '{name}' for tuples {first} and {second}"
  | invalidAbi fault => s!"Invalid ABI: {fault.message}"
  | config fault => s!"Configuration error: {fault.message}"
  | serialization => "Serialization error: JSON serialization error"

/-! ### Results without a fault -/

section Results

variable {ε α β : Type}

theorem except_bind_eq_ok_iff {x : Except ε α} {f : α → Except ε β} {b : β} :
    x >>= f = .ok b ↔ ∃ a, x = .ok a ∧ f a = .ok b := by
  cases x <;> simp [bind, Except.bind]

theorem except_map_eq_ok_iff {x : Except ε α} {f : α → β} {b : β} :
    f <$> x = .ok b ↔ ∃ a, x = .ok a ∧ f a = b := by
  cases x <;> simp [Functor.map, Except.map]

theorem except_toOption_eq_some_iff {x : Except ε α} {a : α} :
    x.toOption = some a ↔ x = .ok a := by
  cases x <;> simp [Except.toOption]

end Results

end ContractBindings
