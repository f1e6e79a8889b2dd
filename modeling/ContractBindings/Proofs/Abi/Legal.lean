import ContractBindings.Abi.Contract

/-!
# Legal types

A type may carry any width and any array length. It is **legal** if all its widths are among those
that a contract can declare and its array lengths are 64-bit words. Widths are checked where a type
is read and again where it is mapped; `Elementary.checkWidth_eq_ok_iff` says that none but legal
types pass the check.
-/

namespace ContractBindings

/-- **Legal** elementary type: its width is one that a contract can declare. -/
def Elementary.IsLegal : Elementary → Prop
  | uint bits | int bits => 0 < bits ∧ bits ≤ 256 ∧ 8 ∣ bits
  | fixedBytes size => 0 < size ∧ size ≤ 32
  | _ => True

instance : (kind : Elementary) → Decidable kind.IsLegal
  | .uint bits | .int bits => inferInstanceAs (Decidable (0 < bits ∧ bits ≤ 256 ∧ 8 ∣ bits))
  | .fixedBytes size => inferInstanceAs (Decidable (0 < size ∧ size ≤ 32))
  | .address | .bool | .string | .bytes | .function => .isTrue trivial

/-- The check of widths is passed by legal types, and gives back what it checks. -/
theorem Elementary.checkWidth_eq_ok_iff {kind checked : Elementary} :
    kind.checkWidth = .ok checked ↔ kind.IsLegal ∧ checked = kind := by
  have hbits : ∀ (make : Nat → Elementary) (bits : Nat),
      make <$> checkIntegerBits bits = .ok checked ↔
        (0 < bits ∧ bits ≤ 256 ∧ 8 ∣ bits) ∧ checked = make bits := by
    intro make bits
    rw [checkIntegerBits]
    split
    · refine iff_of_false (by simp [Functor.map, Except.map]) fun h => ?_
      omega
    · simp only [Functor.map, Except.map, Except.ok.injEq, eq_comm (a := checked)]
      exact ⟨fun h => ⟨by omega, h⟩, fun h => h.2⟩
  cases kind with
  | uint bits => exact hbits uint bits
  | int bits => exact hbits int bits
  | fixedBytes size =>
    rw [checkWidth, checkFixedBytes, IsLegal]
    split
    · refine iff_of_false (by simp [Functor.map, Except.map]) fun h => ?_
      omega
    · simp only [Functor.map, Except.map, Except.ok.injEq, eq_comm (a := checked)]
      exact ⟨fun h => ⟨by omega, h⟩, fun h => h.2⟩
  | address | bool | string | bytes | function =>
    simp only [checkWidth, IsLegal, Except.ok.injEq, true_and, eq_comm (a := checked)]

/-- **Legal** type: its widths are legal, and its array lengths are 64-bit words. -/
inductive AbiType.IsLegal : AbiType → Prop
  /-- An elementary type of legal width. -/
  | elementary {kind : Elementary} (h : kind.IsLegal) : IsLegal (.elementary kind)
  /-- An array of legal elements whose length is a 64-bit word. -/
  | array {element : AbiType} {size : Nat} (h : IsLegal element) (hsize : size < word64Bound) :
      IsLegal (.array element size)
  /-- A slice of legal elements. -/
  | slice {element : AbiType} (h : IsLegal element) : IsLegal (.slice element)
  /-- A tuple of legal fields. -/
  | tuple {fields : TupleFields} (h : ∀ field ∈ fields, IsLegal field.2) :
      IsLegal (.tuple fields)

/-! ### Legal contracts -/

/-- The parameters of a function, inputs before outputs. -/
def AbiFunction.parameters (f : AbiFunction) : List AbiParameter := f.inputs ++ f.outputs

/-- **Legal** ABI: the types of all parameters are legal. -/
structure ContractAbi.IsLegal (abi : ContractAbi) : Prop where
  /-- Those of the constructor are. -/
  constructor : ∀ f ∈ abi.constructor, ∀ parameter ∈ f.parameters, parameter.type.IsLegal
  /-- Those of the functions are. -/
  functions : ∀ f ∈ abi.functions, ∀ parameter ∈ f.parameters, parameter.type.IsLegal
  /-- Those of the events are. -/
  events : ∀ e ∈ abi.events, ∀ parameter ∈ e.inputs, parameter.type.IsLegal

end ContractBindings
