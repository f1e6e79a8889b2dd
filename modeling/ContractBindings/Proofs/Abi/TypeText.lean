import ContractBindings.Proofs.Abi.Shape
import ContractBindings.Proofs.Abi.TypeGrammar

/-!
# The text of a type

`AbiType.text` writes a type as ABI documents do: an elementary type by its signature, a tuple by
the word for tuples, and the array suffixes behind it, the leftmost one innermost. The fields of the
innermost tuple are no part of it.

* `parse_text` — reading the text of a legal type, with the fields of its innermost tuple as the
  components, gives the type back;
* `isLegal_of_parse` — whatever is read from a text is legal.
-/

namespace ContractBindings

namespace AbiType

/-! ### Writing -/

/-- The characters of a type's text. -/
def textChars : AbiType → List Char
  | elementary kind => kind.signatureChars
  | array element size => element.textChars ++ '[' :: decimalText size ++ [']']
  | slice element => element.textChars ++ ['[', ']']
  | tuple _ => "tuple".toList

/-- The **text** of a type in an ABI document. -/
def text (type : AbiType) : String := .ofList type.textChars

/-! ### Reading what is written -/

theorem isNumeral_decimalText (n : Nat) : IsNumeral (decimalText n) n :=
  ⟨decimalText_ne_nil n, fun _ => isDigit_of_mem_decimalText, decimalValue_decimalText n⟩

/-- The signature of a legal elementary type is the text of that type. -/
theorem isBaseText_signatureChars {kind : Elementary} (h : kind.IsLegal)
    (components : Option TupleFields) :
    IsBaseText components kind.signatureChars (.elementary kind) := by
  cases kind with
  | address => exact .address
  | bool => exact .bool
  | string => exact .string
  | bytes => exact .bytes
  | function => exact .function
  | uint bits => exact .uint (isNumeral_decimalText bits) h
  | int bits => exact .int (isNumeral_decimalText bits) h
  | fixedBytes size => exact .fixedBytes (isNumeral_decimalText size) h

/-- The text of a legal type belongs to the grammar, if the components are the fields of its
innermost tuple. -/
theorem isTypeText_textChars {type : AbiType} (h : type.IsLegal)
    {components : Option TupleFields}
    (hcomponents : ∀ fields, type.innermost = .tuple fields → components = some fields) :
    IsTypeText false components type.textChars type := by
  induction h with
  | elementary hkind => exact .base (isBaseText_signatureChars hkind components)
  | @array element size _ hsize ih =>
    exact (ih hcomponents).brackets
      (.array ⟨decimalText size, isNumeral_decimalText size, hsize, .inl rfl⟩)
  | slice _ ih =>
    have hslice := (ih hcomponents).brackets .slice
    rwa [List.append_assoc] at hslice
  | @tuple fields _ _ => exact .base (.tuple (hcomponents fields rfl))

/-- **The text of a legal type is read back**, if the components are the fields of its innermost
tuple. Where that is no tuple, they do not matter. -/
theorem parse_text {type : AbiType} (h : type.IsLegal) {components : Option TupleFields}
    (hcomponents : ∀ fields, type.innermost = .tuple fields → components = some fields) :
    parse type.text components = .ok type := by
  obtain ⟨htext, -⟩ := isTypeText_false_iff.mp (isTypeText_textChars h hcomponents)
  rw [parse, text, String.toList_ofList, parseChars_eq_ok_iff]
  exact ⟨[], type.textChars, [], by simp, by simp, by simp, htext⟩

/-! ### What is read is legal -/

section Legal

variable {components : Option TupleFields} {type : AbiType}
  (hcomponents : ∀ fields ∈ components, ∀ field ∈ fields, field.2.IsLegal)
include hcomponents

theorem IsBaseText.isLegal {text : List Char} (h : IsBaseText components text type) :
    type.IsLegal := by
  cases h with
  | tuple h => exact .tuple (hcomponents _ h)
  | uint _ hlegal => exact .elementary hlegal
  | int _ hlegal => exact .elementary hlegal
  | fixedBytes _ hlegal => exact .elementary hlegal
  | _ => exact .elementary (by decide)

theorem IsTypeText.isLegal {plus : Bool} {text : List Char}
    (h : IsTypeText plus components text type) : type.IsLegal := by
  induction h with
  | base h => exact h.isLegal hcomponents
  | suffix _ _ hlayer ih =>
    cases hlayer with
    | slice => exact .slice ih
    | array h =>
      obtain ⟨_, -, hsize, -⟩ := h
      exact .array ih hsize

/-- **What is read is legal**, if the components are. -/
theorem isLegal_of_parse {text : String} (h : parse text components = .ok type) :
    type.IsLegal := by
  obtain ⟨_, _, _, -, -, -, hcore⟩ := parseChars_eq_ok_iff.mp h
  exact hcore.isLegal hcomponents

end Legal

end AbiType

end ContractBindings
