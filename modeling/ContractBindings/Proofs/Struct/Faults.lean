import ContractBindings.Proofs.Abi.Legal
import ContractBindings.Proofs.Struct.Growth

/-!
# Faults of mapping types

`FailsAs x fault?` says that the computation `x` fails with the given fault, or not at all, from
every registry. What is registered has no influence on that: a struct that is already there takes
the place of mappings that would not have failed either.

A legal type is mapped without a fault, unless a tuple is its innermost type and the language has
no records (`failsAs_mapType`).
-/

namespace ContractBindings

/-! ### Faults of computations -/

/-- The fault of a result, if it has one. -/
def faultOf? {α : Type} : Except BindError α → Option BindError
  | .ok _ => none
  | .error fault => some fault

theorem faultOf?_eq_none_iff {α : Type} {result : Except BindError α} :
    faultOf? result = none ↔ ∃ a, result = .ok a := by
  cases result <;> simp [faultOf?]

theorem faultOf?_eq_some_iff {α : Type} {result : Except BindError α} {fault : BindError} :
    faultOf? result = some fault ↔ result = .error fault := by
  cases result <;> simp [faultOf?]

/-- **Fault** of a computation, the same from every registry. -/
def FailsAs {α : Type} (x : Resolve α) (fault? : Option BindError) : Prop :=
  ∀ before, faultOf? (x.outcome before).1 = fault?

namespace FailsAs

variable {α β : Type} {x : Resolve α} {fault? : Option BindError}

protected theorem pure (a : α) : FailsAs (pure a) none := fun _ => rfl

protected theorem throw (fault : BindError) : FailsAs (throw fault : Resolve α) (some fault) :=
  fun _ => rfl

/-- The first of two computations fails, or else the second one. -/
protected theorem bind {f : α → Resolve β} {later? : Option BindError} (hx : FailsAs x fault?)
    (hf : ∀ a, FailsAs (f a) later?) : FailsAs (x >>= f) (fault?.or later?) := by
  intro before
  have hfirst := hx before
  rw [Resolve.outcome_bind]
  rcases hrun : x.outcome before with ⟨fault | a, middle⟩
  · rw [hrun] at hfirst
    rw [← hfirst]
    rfl
  · rw [hrun] at hfirst
    rw [← hfirst]
    exact hf a middle

/-- Rewriting the result does not fail. -/
protected theorem map (hx : FailsAs x fault?) (f : α → β) :
    FailsAs (x >>= fun a => pure (f a)) fault? :=
  Option.or_none (o := fault?) ▸ hx.bind fun a => .pure (f a)

/-- Of the computations for the items of a list, the first that fails counts. -/
protected theorem mapM {items : List α} {f : α → Resolve β} {fault? : α → Option BindError}
    (h : ∀ item ∈ items, FailsAs (f item) (fault? item)) :
    FailsAs (items.mapM f) (items.findSome? fault?) := by
  induction items with
  | nil => exact .pure []
  | cons item rest ih =>
    obtain ⟨hitem, hrest⟩ := List.forall_mem_cons.mp h
    have hor : (item :: rest).findSome? fault? = (fault? item).or (rest.findSome? fault?) := by
      rw [List.findSome?_cons]
      cases fault? item <;> rfl
    rw [List.mapM_cons, hor]
    exact hitem.bind fun first => (ih hrest).map (first :: ·)

protected theorem optionMapM {item : Option α} {f : α → Resolve β} {fault? : α → Option BindError}
    (h : ∀ a ∈ item, FailsAs (f a) (fault? a)) : FailsAs (item.mapM f) (item.bind fault?) := by
  cases item with
  | none => exact .pure none
  | some a => exact (h a rfl).map some

/-- A computation that has succeeded once has no fault. -/
theorem eq_none_of_yields {before after : StructRegistry} {a : α} (hx : FailsAs x fault?)
    (hrun : x.Yields before a after) : fault? = none := by
  have hfault := hx before
  rw [hrun] at hfault
  exact hfault.symm

/-- A computation without a fault succeeds from every registry. -/
theorem exists_yields (hx : FailsAs x none) (before : StructRegistry) :
    ∃ a after, x.Yields before a after := by
  obtain ⟨a, hresult⟩ := faultOf?_eq_none_iff.mp (hx before)
  exact ⟨a, (x.outcome before).2, Prod.ext hresult rfl⟩

end FailsAs

/-! ### Mapping types -/

/-- The fault in mapping a legal type: a language without records has none for tuples. -/
def Language.tupleFault? (language : Language) (type : AbiType) : Option BindError :=
  if type.innermost.isTuple ∧ language.hasRecords = false then
    some (.unsupportedTuple language type.innermost.signature)
  else none

theorem Language.tupleFault?_of_hasRecords {language : Language} (h : language.hasRecords = true)
    (type : AbiType) : language.tupleFault? type = none :=
  if_neg fun hfault => by rw [h] at hfault; cases hfault.2

/-- Without records, just the types with a tuple inside their arrays and slices have a fault. -/
theorem Language.tupleFault?_eq_some_iff {language : Language} (h : language.hasRecords = false)
    {type : AbiType} {fault : BindError} :
    language.tupleFault? type = some fault ↔
      type.innermost.isTuple = true ∧
        fault = .unsupportedTuple language type.innermost.signature := by
  rw [tupleFault?, eq_comm (a := fault)]
  split
  · rename_i htuple
    rw [Option.some.injEq, and_iff_right htuple.1]
  · rename_i hnone
    exact iff_of_false (fun heq => nomatch heq) fun htuple => hnone ⟨htuple.1, h⟩

theorem Language.tupleFault?_eq_none_iff {language : Language} (h : language.hasRecords = false)
    {type : AbiType} : language.tupleFault? type = none ↔ type.innermost.isTuple = false := by
  rw [Option.eq_none_iff_forall_ne_some]
  simp [tupleFault?_eq_some_iff h]

section Types

variable {language : Language} {fields : TupleFields}

/-- A tuple becomes a struct without a fault if its fields are mapped without one. -/
theorem failsAs_intern {mapAll : Resolve (List String)} (h : FailsAs mapAll none) :
    FailsAs (intern language fields mapAll) none := by
  intro before
  rcases intern_cases before with
    ⟨struct, -, hrun⟩ | ⟨-, ⟨fault, middle, hall, -⟩ | ⟨boundTypes, middle, -, hrun⟩⟩
  · rw [hrun]
    rfl
  · have hnone := h before
    rw [hall] at hnone
    cases hnone
  · rw [hrun]
    rfl

/-- **Mapping a legal type** fails only for a tuple where there are no records. -/
theorem failsAs_mapType {type : AbiType} (h : type.IsLegal) :
    FailsAs (mapType language type) (language.tupleFault? type) := by
  induction h with
  | @elementary kind hkind =>
    intro before
    have hname : language.elementaryType kind = .ok (language.elementaryName kind) := by
      rw [Language.elementaryType, Elementary.checkWidth_eq_ok_iff.mpr ⟨hkind, rfl⟩]
    rw [mapType, hname]
    rfl
  | @array element size _ _ ih =>
    rw [mapType]
    exact ih.map (language.arrayType · size)
  | slice _ ih =>
    rw [mapType]
    exact ih.map language.sliceType
  | @tuple fields _ ih =>
    rw [mapType]
    cases hrecords : language.hasRecords with
    | true =>
      have hnone : fields.findSome? (fun field => language.tupleFault? field.2) = none :=
        List.findSome?_eq_none_iff.mpr fun field _ => language.tupleFault?_of_hasRecords hrecords _
      rw [language.tupleFault?_of_hasRecords hrecords, if_pos rfl]
      refine failsAs_intern ?_
      rw [mapFields_eq_mapM, ← hnone]
      exact .mapM ih
    | false =>
      have hfault : language.tupleFault? (.tuple fields) =
          some (.unsupportedTuple language (AbiType.tuple fields).signature) :=
        if_pos ⟨rfl, hrecords⟩
      rw [hfault, if_neg Bool.false_ne_true]
      exact .throw _

theorem failsAs_mapTopicType {type : AbiType} (h : type.IsLegal) :
    FailsAs (mapTopicType language type) (language.tupleFault? type) :=
  (failsAs_mapType h).map fun bound => if type.isHashedTopic then language.hashType else bound

end Types

end ContractBindings
