import ContractBindings.Proofs.Abi.Shape
import ContractBindings.Proofs.Binding.Entries
import ContractBindings.Proofs.Related

/-!
# Overloads and signatures

A canonical signature is a name with the signature of a tuple behind it, and the name may be any
text. It is cut in one way only: the tuple is the shortest end of the text that is not empty and has
as many opening as closing parentheses. So a signature determines the name and the shapes of the
parameter types (`canonicalSignature_eq_iff`), and two different overloads have entries of their own
in the signature index of a classification (`signatures_separate_overloads`).

Selectors are four bytes of a digest and do not tell overloads apart: `selector_openWith` has two
with the same one.
-/

namespace ContractBindings

/-! ### Parentheses -/

/-- **Balanced** text: it has as many opening as closing parentheses, and no part at its end has
more opening ones. -/
structure Balanced (text : List Char) : Prop where
  count_eq : text.count '(' = text.count ')'
  count_le : ∀ front back, text = front ++ back → back.count '(' ≤ back.count ')'

namespace Balanced

variable {text other : List Char}

theorem of_notMem (hopen : '(' ∉ text) (hclose : ')' ∉ text) : Balanced text where
  count_eq := by rw [List.count_eq_zero.mpr hopen, List.count_eq_zero.mpr hclose]
  count_le := by
    rintro front back rfl
    have hback : '(' ∉ back := fun hmem => hopen (List.mem_append_right front hmem)
    rw [List.count_eq_zero.mpr hback]
    exact Nat.zero_le _

theorem of_plain (h : ∀ c ∈ text, c ≠ ',' ∧ c ≠ '(' ∧ c ≠ ')') : Balanced text :=
  of_notMem (fun hmem => (h '(' hmem).2.1 rfl) fun hmem => (h ')' hmem).2.2 rfl

theorem comma : Balanced [','] := of_notMem (by decide) (by decide)

theorem append (h : Balanced text) (hother : Balanced other) : Balanced (text ++ other) where
  count_eq := by rw [List.count_append, List.count_append, h.count_eq, hother.count_eq]
  count_le front back heq := by
    rcases List.append_eq_append_iff.mp heq with ⟨gap, -, hgap⟩ | ⟨gap, htext, rfl⟩
    · exact hother.count_le gap back hgap
    · have hfirst := h.count_le front gap htext
      have hsecond := hother.count_eq
      rw [List.count_append, List.count_append]
      omega

/-- A proper part at the end of a balanced text in parentheses has more closing parentheses than
opening ones. -/
theorem count_lt (h : Balanced text) {front back : List Char}
    (heq : '(' :: text ++ [')'] = front ++ back) (hfront : front ≠ []) (hback : back ≠ []) :
    back.count '(' < back.count ')' := by
  obtain ⟨c, front, rfl⟩ := List.exists_cons_of_ne_nil hfront
  obtain ⟨back, last, rfl⟩ := (List.eq_nil_or_concat' back).resolve_left hback
  have hinner : text ++ [')'] = front ++ back ++ [last] := by
    rw [List.append_assoc]
    exact (List.cons.inj heq).2
  -- the last parenthesis closes the first one, so it is one too many for the part
  obtain ⟨htext, hlast⟩ := List.append_inj' hinner rfl
  obtain rfl : ')' = last := List.singleton_inj.mp hlast
  have hle := h.count_le front back htext
  have hopen : (back ++ [')']).count '(' = back.count '(' := by simp
  have hclose : (back ++ [')']).count ')' = back.count ')' + 1 := by simp
  omega

theorem parentheses (h : Balanced text) : Balanced ('(' :: text ++ [')']) := by
  have htotal : ('(' :: text ++ [')']).count '(' = ('(' :: text ++ [')']).count ')' := by
    have hcount := h.count_eq
    simp [hcount]
  refine ⟨htotal, fun front back heq => ?_⟩
  by_cases hfront : front = []
  · rw [hfront, List.nil_append] at heq
    rw [← heq, htotal]
  · by_cases hback : back = []
    · rw [hback]
      exact Nat.le_refl _
    · exact Nat.le_of_lt (h.count_lt heq hfront hback)

end Balanced

namespace AbiType

theorem balanced_signatureChars (type : AbiType) : Balanced type.signatureChars :=
  signatureChars_induct (P := fun _ => Balanced) .of_plain .append .comma .parentheses type 0

theorem balanced_fieldSignatureChars (fields : TupleFields) :
    Balanced (fieldSignatureChars fields) :=
  fieldSignatureChars_induct (P := fun _ => Balanced) .of_plain .append .comma 0
    fun field _ => field.2.balanced_signatureChars

/-- The signature of a tuple is no proper part at the end of another one. -/
theorem eq_nil_of_signatureChars_tuple {fields others : TupleFields} {gap : List Char}
    (h : (tuple fields).signatureChars = gap ++ (tuple others).signatureChars) : gap = [] := by
  -- a proper part would not be balanced, but the signature of a tuple is
  by_contra hgap
  have htotal := (tuple others).balanced_signatureChars.count_eq
  have hlt := (balanced_fieldSignatureChars fields).count_lt (by rw [← h]; rfl) hgap
    (signatureChars_ne_nil (tuple others))
  omega

/-- A text ends in the signature of one tuple only. -/
theorem append_signatureChars_tuple_inj {text other : List Char} {fields others : TupleFields}
    (h : text ++ (tuple fields).signatureChars = other ++ (tuple others).signatureChars) :
    text = other ∧ (tuple fields).signatureChars = (tuple others).signatureChars := by
  rcases List.append_eq_append_iff.mp h with ⟨gap, rfl, hgap⟩ | ⟨gap, rfl, hgap⟩
  · obtain rfl := eq_nil_of_signatureChars_tuple hgap
    exact ⟨(List.append_nil text).symm, hgap⟩
  · obtain rfl := eq_nil_of_signatureChars_tuple hgap
    exact ⟨List.append_nil other, hgap.symm⟩

end AbiType

/-! ### Canonical signatures -/

/-- Parameter lists with the same shapes, one by one. -/
theorem shape_parameterTuple_eq_iff {parameters others : List AbiParameter} :
    (parameterTuple parameters).shape = (parameterTuple others).shape ↔
      List.Forall₂ (fun a b => a.type.shape = b.type.shape) parameters others := by
  rw [shape_parameterTuple, shape_parameterTuple, AbiType.tuple.injEq, map_eq_map_iff]
  simp only [Prod.mk.injEq, true_and]

/-- **A canonical signature is unambiguous**: it determines the name and the shapes of the parameter
types. -/
theorem canonicalSignature_eq_iff {name other : String} {parameters others : List AbiParameter} :
    canonicalSignature name parameters = canonicalSignature other others ↔
      name = other ∧ List.Forall₂ (fun a b => a.type.shape = b.type.shape) parameters others := by
  rw [← shape_parameterTuple_eq_iff, ← AbiType.signature_eq_iff, canonicalSignature,
    canonicalSignature]
  constructor
  · intro h
    have hchars := congrArg String.toList h
    simp only [String.toList_append, AbiType.signature, String.toList_ofList] at hchars
    obtain ⟨hname, htuple⟩ := AbiType.append_signatureChars_tuple_inj hchars
    exact ⟨String.toList_inj.mp hname, congrArg String.ofList htuple⟩
  · rintro ⟨rfl, htuple⟩
    rw [htuple]

/-! ### The signature index -/

/-- **Same overload**: functions with the same name whose inputs have types of the same shapes. -/
def AbiFunction.SameOverload (f g : AbiFunction) : Prop :=
  f.name = g.name ∧ List.Forall₂ (fun a b => a.type.shape = b.type.shape) f.inputs g.inputs

/-- The signature of a bound function is a key of the signature index. -/
theorem signature_mem_keys_of_classify {language : Language} {customs : Customs}
    {abi : ContractAbi} {before after : StructRegistry} {result : Classification}
    (h : (classify language customs abi).run before = (.ok result, after)) {f : AbiFunction}
    (hf : f ∈ abi.boundFunctions customs) : f.signature ∈ result.signatures.keys := by
  obtain ⟨methods, events, constructor, rfl, hmethods, -⟩ := exists_of_yields_classify h
  obtain ⟨-, hfunctions⟩ := of_map_eq_withKeys hmethods
  rw [← hfunctions] at hf
  obtain ⟨entry, hentry, rfl⟩ := List.mem_map.mp hf
  exact Classification.mem_keys_signatures_ofBound.mpr (.inl ⟨entry, hentry, rfl⟩)

/-- **Signatures separate overloads**: a signature determines the name and the shapes of the
parameter types, so different overloads have entries of their own in the signature index. -/
theorem signatures_separate_overloads :
    (∀ (name other : String) (parameters others : List AbiParameter),
      canonicalSignature name parameters = canonicalSignature other others ↔
        name = other ∧ List.Forall₂ (fun a b => a.type.shape = b.type.shape) parameters others) ∧
    ∀ (language : Language) (customs : Customs) (abi : ContractAbi)
      (before after : StructRegistry) (result : Classification),
      (classify language customs abi).run before = (.ok result, after) →
      ∀ f ∈ abi.boundFunctions customs, ∀ g ∈ abi.boundFunctions customs, ¬f.SameOverload g →
        f.signature ≠ g.signature ∧ f.signature ∈ result.signatures.keys ∧
          g.signature ∈ result.signatures.keys := by
  refine ⟨fun _ _ _ _ => canonicalSignature_eq_iff, ?_⟩
  intro language customs abi before after result hrun f hf g hg hdiffer
  exact ⟨fun h => hdiffer (canonicalSignature_eq_iff.mp h),
    signature_mem_keys_of_classify hrun hf, signature_mem_keys_of_classify hrun hg⟩

/-- A function for inputs of elementary types. -/
def openWith (kinds : List Elementary) : AbiFunction :=
  ⟨"open", kinds.map fun kind => ⟨"", .elementary kind, none, false⟩, [], .nonpayable⟩

/-- Two overloads of one name. -/
def openOverloads : ContractAbi where
  constructor := none
  functions := [openWith [.uint 56, .uint 200], openWith [.int 96, .fixedBytes 28]]
  events := []

theorem not_sameOverload_openWith :
    ¬(openWith [.uint 56, .uint 200]).SameOverload (openWith [.int 96, .fixedBytes 28]) := by
  rintro ⟨-, hinputs⟩
  obtain ⟨hshape, -⟩ := List.forall₂_cons.mp hinputs
  simp [AbiType.shape] at hshape

theorem signatures_separate_overloads_open :
    ∃ result after, (classify .golang .empty openOverloads).run .empty = (.ok result, after) ∧
      (openWith [.uint 56, .uint 200]).signature ≠
        (openWith [.int 96, .fixedBytes 28]).signature ∧
      (openWith [.uint 56, .uint 200]).signature ∈ result.signatures.keys ∧
      (openWith [.int 96, .fixedBytes 28]).signature ∈ result.signatures.keys := by
  have hrun : (classify .golang .empty openOverloads).run .empty = (.ok _, _) := rfl
  have hfirst : openWith [.uint 56, .uint 200] ∈ openOverloads.boundFunctions .empty :=
    List.mem_cons_self
  have hsecond : openWith [.int 96, .fixedBytes 28] ∈ openOverloads.boundFunctions .empty :=
    List.mem_cons_of_mem _ List.mem_cons_self
  exact ⟨_, _, hrun, signatures_separate_overloads.2 _ _ _ _ _ _ hrun _ hfirst _ hsecond
    not_sameOverload_openWith⟩

/-- Different overloads may have the same selector. -/
theorem selector_openWith :
    ¬(openWith [.uint 56, .uint 200]).SameOverload (openWith [.int 96, .fixedBytes 28]) ∧
      (openWith [.uint 56, .uint 200]).selector =
        (openWith [.int 96, .fixedBytes 28]).selector := by
  -- the digests differ, but both begin with the same bytes
  have hfirst : (openWith [.uint 56, .uint 200]).selector = "0xdcb451da" := by
    decide +kernel
  have hsecond : (openWith [.int 96, .fixedBytes 28]).selector = "0xdcb451da" := by
    decide +kernel
  exact ⟨not_sameOverload_openWith, hfirst.trans hsecond.symm⟩

end ContractBindings
