import ContractBindings.Proofs.Related
import ContractBindings.Proofs.Struct.Index
import ContractBindings.Proofs.Struct.Run
import ContractBindings.Proofs.Struct.Traversal
import Mathlib.Logic.Relation

/-!
# How a registry grows

Whether a computation succeeds or fails, it changes the registry by **steps** only. A step adds
one struct behind the others, for a tuple whose signature is new and whose fields have bound types
in the registry as it is then (`StructRegistry.AddsStruct`). So what holds of every registry is
shown for a single step.

`StructRegistry.boundType?` is the bound type of a type as far as a registry knows it, and stays
as it is in every extension of the registry (`Extends.boundType?_eq_some`).
`Grows language x tuples holds` says that the computation `x` adds structs for none but the given
tuples, and what its result is worth in every later registry; `grows_mapType` says it of single
types.
-/

namespace ContractBindings

namespace StructRegistry

variable {language : Language} {before middle after : StructRegistry}

/-! ### Known bound types -/

/-- The **known bound type** of a type: a tuple has the display name of its struct. -/
def boundType? (registry : StructRegistry) (language : Language) : AbiType → Option String
  | .elementary kind => (language.elementaryType kind).toOption
  | .array element size => (registry.boundType? language element).map (language.arrayType · size)
  | .slice element => (registry.boundType? language element).map language.sliceType
  | .tuple fields => (registry.get? (tupleSignature fields)).map (·.name)

/-- The known bound type of an indexed event parameter. -/
def topicType? (registry : StructRegistry) (language : Language) (type : AbiType) :
    Option String :=
  if type.isHashedTopic then some language.hashType else registry.boundType? language type

/-! ### Extensions -/

/-- **Extension** of a registry: the structs that there were come first, all unchanged, and are
entered under their signatures as before. -/
structure Extends (before after : StructRegistry) : Prop where
  /-- The custom names are the same. -/
  overrides : after.overrides = before.overrides
  /-- Structs are added behind the others only. -/
  structs : before.structs <+: after.structs
  /-- The index keeps its entries. -/
  index : ∀ {signature : String} {place : Nat}, before.index.get? signature = some place →
    after.index.get? signature = some place

namespace Extends

protected theorem refl (registry : StructRegistry) : registry.Extends registry :=
  ⟨rfl, List.prefix_rfl, id⟩

protected theorem trans (h : before.Extends middle) (hafter : middle.Extends after) :
    before.Extends after :=
  ⟨hafter.overrides.trans h.overrides, h.structs.trans hafter.structs,
    fun hindex => hafter.index (h.index hindex)⟩

/-- A place keeps its struct. -/
theorem getElem?_structs (h : before.Extends after) {place : Nat} {struct : StructDescriptor}
    (hplace : before.structs[place]? = some struct) : after.structs[place]? = some struct := by
  obtain ⟨added, hadded⟩ := h.structs
  rw [← hadded, List.getElem?_append_left (List.getElem?_eq_some_iff.mp hplace).1, hplace]

/-- A signature keeps its struct. -/
theorem get?_eq_some (h : before.Extends after) {signature : String} {struct : StructDescriptor}
    (hfound : before.get? signature = some struct) : after.get? signature = some struct := by
  obtain ⟨place, hindex, hplace⟩ := get?_eq_some_iff_exists.mp hfound
  exact get?_eq_some_iff_exists.mpr ⟨place, h.index hindex, h.getElem?_structs hplace⟩

/-- A known bound type stays as it is. -/
theorem boundType?_eq_some (h : before.Extends after) {type : AbiType} {bound : String}
    (hknown : before.boundType? language type = some bound) :
    after.boundType? language type = some bound := by
  induction type using AbiType.induct generalizing bound with
  | elementary kind => exact hknown
  | array element size ih =>
    obtain ⟨inner, hinner, rfl⟩ := Option.map_eq_some_iff.mp hknown
    rw [boundType?, ih hinner, Option.map_some]
  | slice element ih =>
    obtain ⟨inner, hinner, rfl⟩ := Option.map_eq_some_iff.mp hknown
    rw [boundType?, ih hinner, Option.map_some]
  | tuple fields ih =>
    obtain ⟨struct, hfound, rfl⟩ := Option.map_eq_some_iff.mp hknown
    rw [boundType?, h.get?_eq_some hfound, Option.map_some]

end Extends

/-! ### Steps -/

/-- **Step** of a registry: one struct is added, for a tuple of a new signature whose fields have
known bound types. -/
structure AddsStruct (language : Language) (fields : TupleFields)
    (before after : StructRegistry) : Prop where
  /-- There is no struct for the tuple yet. -/
  fresh : tupleSignature fields ∉ before.signatures
  /-- The struct has the fields of the tuple with their bound types. -/
  added : ∃ boundTypes, List.Forall₂
      (fun field bound => before.boundType? language field.2 = some bound) fields boundTypes ∧
    after = before.add language.structStem (tupleSignature fields)
      (structFields language fields boundTypes)

/-- A struct of a new signature extends the registry. -/
theorem extends_add {registry : StructRegistry} {stem signature : String}
    {fields : List StructField} (h : signature ∉ registry.signatures) :
    registry.Extends (registry.add stem signature fields) where
  overrides := rfl
  structs := List.prefix_append _ _
  index := by
    intro other place hindex
    -- an entry for the new signature would lead to a struct with it
    have hother : other ≠ signature := by
      rintro rfl
      obtain ⟨struct, hplace, hsignature⟩ := registry.indexed.leads hindex
      exact h (hsignature ▸ mem_signatures_of_mem (List.mem_of_getElem? hplace))
    rw [index_add, TextMap.get?_insert, if_neg hother, hindex]

/-- **Growth** of a registry: steps for some of the given tuples, one after the other. -/
def GrowsBy (language : Language) (tuples : List TupleFields)
    (before after : StructRegistry) : Prop :=
  Relation.ReflTransGen
    (fun before after => ∃ fields ∈ tuples, AddsStruct language fields before after) before after

namespace GrowsBy

variable {tuples others : List TupleFields}

protected theorem refl (registry : StructRegistry) : registry.GrowsBy language tuples registry :=
  Relation.ReflTransGen.refl

protected theorem trans (h : before.GrowsBy language tuples middle)
    (hafter : middle.GrowsBy language tuples after) : before.GrowsBy language tuples after :=
  Relation.ReflTransGen.trans h hafter

theorem mono (h : before.GrowsBy language tuples after) (hsubset : tuples ⊆ others) :
    before.GrowsBy language others after :=
  Relation.ReflTransGen.mono (fun _ _ ⟨fields, hmem, hstep⟩ => ⟨fields, hsubset hmem, hstep⟩)
    _ _ h

theorem toExtends (h : before.GrowsBy language tuples after) : before.Extends after := by
  induction h with
  | refl => exact .refl _
  | tail _ hstep ih =>
    obtain ⟨_, _, hfresh, _, -, rfl⟩ := hstep
    exact ih.trans (extends_add hfresh)

/-- Other tuples than those given get no struct. -/
theorem notMem_signatures (h : before.GrowsBy language tuples after) {signature : String}
    (habsent : signature ∉ before.signatures)
    (hother : ∀ fields ∈ tuples, tupleSignature fields ≠ signature) :
    signature ∉ after.signatures := by
  induction h with
  | refl => exact habsent
  | tail _ hstep ih =>
    obtain ⟨fields, hmem, -, _, -, rfl⟩ := hstep
    rw [signatures_add, List.mem_append, List.mem_singleton, not_or]
    exact ⟨ih, (hother fields hmem).symm⟩

end GrowsBy

end StructRegistry

/-! ### What a computation adds and gives -/

/-- **Effect** of a computation, successful or not: it adds structs for none but the given tuples,
and a result of it has the property `holds` in every registry that extends the one it leaves. -/
structure Grows {α : Type} (language : Language) (x : Resolve α) (tuples : List TupleFields)
    (holds : StructRegistry → α → Prop) : Prop where
  /-- Every run makes the registry grow. -/
  registry : ∀ before : StructRegistry, before.GrowsBy language tuples (x.outcome before).2
  /-- A successful run gives a result with the property. -/
  result : ∀ {before after later : StructRegistry} {a : α}, x.Yields before a after →
    after.Extends later → holds later a

namespace Grows

variable {α β : Type} {language : Language} {tuples others : List TupleFields}

protected theorem pure (a : α) : Grows language (pure a) [] fun _ b => b = a where
  registry := .refl
  result := fun hrun _ => (Resolve.yields_pure.mp hrun).1.symm

protected theorem throw (error : BindError) :
    Grows language (throw error : Resolve α) [] fun _ _ => False where
  registry := .refl
  result := fun hrun _ => Resolve.not_yields_throw hrun

/-- An effect with fewer tuples and a stronger property. -/
protected theorem imp {x : Resolve α} {holds weaker : StructRegistry → α → Prop}
    (h : Grows language x tuples holds) (hsubset : tuples ⊆ others)
    (himp : ∀ registry a, holds registry a → weaker registry a) :
    Grows language x others weaker where
  registry := fun before => (h.registry before).mono hsubset
  result := fun hrun hlater => himp _ _ (h.result hrun hlater)

/-- One computation after the other. What the first one gives holds at the end as well, since the
second one only extends the registry. -/
protected theorem bind {x : Resolve α} {holds : StructRegistry → α → Prop} {f : α → Resolve β}
    {result : α → StructRegistry → β → Prop} (hx : Grows language x tuples holds)
    (hf : ∀ a, Grows language (f a) others (result a)) :
    Grows language (x >>= f) (tuples ++ others) fun registry b =>
      ∃ a, holds registry a ∧ result a registry b where
  registry := by
    intro before
    have hfirst := (hx.registry before).mono (List.subset_append_left tuples others)
    rw [Resolve.outcome_bind]
    cases hrun : Resolve.outcome x before with
    | mk first middle =>
      rw [hrun] at hfirst
      cases first with
      | error error => exact hfirst
      | ok a => exact hfirst.trans (((hf a).registry middle).mono (List.subset_append_right _ _))
  result := by
    intro before after later b hrun hlater
    obtain ⟨a, middle, hfirst, hsecond⟩ := Resolve.yields_bind.mp hrun
    have hgrowth : middle.GrowsBy language others ((f a).outcome middle).2 :=
      (hf a).registry middle
    rw [hsecond] at hgrowth
    exact ⟨a, hx.result hfirst (hgrowth.toExtends.trans hlater), (hf a).result hsecond hlater⟩

/-- A computation whose result is only rewritten. -/
protected theorem map {x : Resolve α} {holds : StructRegistry → α → Prop}
    (hx : Grows language x tuples holds) (f : α → β) :
    Grows language (x >>= fun a => pure (f a)) tuples fun registry b =>
      ∃ a, holds registry a ∧ b = f a :=
  List.append_nil tuples ▸ hx.bind fun a => .pure (f a)

/-- Computations for the items of a list, one after the other. -/
protected theorem mapM {items : List α} {f : α → Resolve β} {tuples : α → List TupleFields}
    {holds : α → StructRegistry → β → Prop}
    (h : ∀ item ∈ items, Grows language (f item) (tuples item) (holds item)) :
    Grows language (items.mapM f) (items.flatMap tuples) fun registry results =>
      List.Forall₂ (fun item => holds item registry) items results := by
  induction items with
  | nil => exact (Grows.pure []).imp (List.Subset.refl _) fun _ _ hnil => hnil ▸ .nil
  | cons item rest ih =>
    have hrest := ih fun other hother => h other (List.mem_cons_of_mem _ hother)
    rw [List.mapM_cons, List.flatMap_cons]
    refine ((h item List.mem_cons_self).bind fun first => hrest.map (first :: ·)).imp
      (List.Subset.refl _) ?_
    rintro registry _ ⟨first, hfirst, others, hothers, rfl⟩
    exact .cons hfirst hothers

end Grows

/-! ### Types -/

section Types

variable {language : Language} {fields : TupleFields} {mapAll : Resolve (List String)}

/-- What asking for the struct of a tuple does: a known struct is only looked up. Otherwise the
fields are mapped first; if that fails, there is no more to it, and else the struct is added. -/
theorem intern_cases (before : StructRegistry) :
    (∃ struct, before.get? (tupleSignature fields) = some struct ∧
      (intern language fields mapAll).outcome before = (.ok struct.name, before)) ∨
    before.get? (tupleSignature fields) = none ∧
      ((∃ error middle, mapAll.outcome before = (.error error, middle) ∧
        (intern language fields mapAll).outcome before = (.error error, middle)) ∨
      ∃ boundTypes middle, mapAll.Yields before boundTypes middle ∧
        (intern language fields mapAll).outcome before =
          (.ok (middle.nextName language.structStem (tupleSignature fields)),
            middle.add language.structStem (tupleSignature fields)
              (structFields language fields boundTypes))) := by
  rw [intern, Resolve.outcome_bind, Resolve.outcome_get, ← tupleSignature]
  dsimp only
  cases before.get? (tupleSignature fields) with
  | some struct => exact .inl ⟨struct, rfl, rfl⟩
  | none =>
    refine .inr ⟨rfl, ?_⟩
    dsimp only
    rw [Resolve.outcome_bind]
    cases hall : mapAll.outcome before with
    | mk result middle =>
      cases result with
      | error error => exact .inl ⟨error, middle, rfl, rfl⟩
      | ok boundTypes => exact .inr ⟨boundTypes, middle, hall, rfl⟩

/-- While the fields of a new tuple are mapped, the tuple itself gets no struct. -/
theorem notMem_signatures_of_mapAll {before : StructRegistry}
    (hnew : before.get? (tupleSignature fields) = none)
    (h : before.GrowsBy language (fieldTuples fields) (mapAll.outcome before).2) :
    tupleSignature fields ∉ (mapAll.outcome before).2.signatures :=
  h.notMem_signatures (StructRegistry.get?_eq_none_iff.mp hnew) fun _ hinner =>
    tupleSignature_ne_of_mem hinner

/-- A tuple adds structs for the tuples inside it and then one for itself, and its name is known
from then on. -/
theorem grows_intern
    (h : Grows language mapAll (fieldTuples fields) fun registry boundTypes => List.Forall₂
      (fun field bound => registry.boundType? language field.2 = some bound) fields boundTypes) :
    Grows language (intern language fields mapAll) (AbiType.tuple fields).tuples
      fun registry name => registry.boundType? language (.tuple fields) = some name := by
  have hinner : fieldTuples fields ⊆ (AbiType.tuple fields).tuples :=
    List.subset_append_left _ _
  constructor
  case registry =>
    intro before
    have hgrowth := h.registry before
    rcases intern_cases before with
      ⟨struct, -, hrun⟩ | ⟨hnew, ⟨error, middle, hall, hrun⟩ | ⟨boundTypes, middle, hall, hrun⟩⟩
    · rw [hrun]
      exact .refl before
    · rw [hall] at hgrowth
      rw [hrun]
      exact hgrowth.mono hinner
    · -- the inner tuples have their structs, so the fields have known bound types
      have hfresh := notMem_signatures_of_mapAll hnew hgrowth
      rw [hall] at hgrowth hfresh
      rw [hrun]
      exact (hgrowth.mono hinner).trans (Relation.ReflTransGen.single ⟨fields,
        AbiType.self_mem_tuples fields, hfresh, boundTypes, h.result hall (.refl middle), rfl⟩)
  case result =>
    intro before after later name hyields hlater
    suffices after.boundType? language (.tuple fields) = some name from
      hlater.boundType?_eq_some this
    rw [Resolve.Yields] at hyields
    rcases intern_cases before with
      ⟨struct, hfound, hrun⟩ | ⟨-, ⟨error, middle, -, hrun⟩ | ⟨boundTypes, middle, -, hrun⟩⟩
    · obtain ⟨hname, rfl⟩ := Prod.mk.inj (hrun.symm.trans hyields)
      rw [StructRegistry.boundType?, hfound, Option.map_some, Except.ok.inj hname]
    · cases (Prod.mk.inj (hrun.symm.trans hyields)).1
    · obtain ⟨hname, rfl⟩ := Prod.mk.inj (hrun.symm.trans hyields)
      rw [StructRegistry.boundType?, StructRegistry.get?_add_self, Option.map_some,
        Except.ok.inj hname]

/-- Mapping the fields of a tuple adds what mapping each of them does. -/
theorem grows_mapFields
    (h : ∀ field ∈ fields, Grows language (mapType language field.2) field.2.tuples
      fun registry bound => registry.boundType? language field.2 = some bound) :
    Grows language (mapFields language fields) (fieldTuples fields) fun registry boundTypes =>
      List.Forall₂ (fun field bound => registry.boundType? language field.2 = some bound) fields
        boundTypes := by
  rw [mapFields_eq_mapM, fieldTuples_eq_flatMap]
  exact .mapM h

variable (language)

/-- **Mapping a type** adds structs for none but the tuples inside it, and what it gives is the
known bound type from then on. -/
theorem grows_mapType (type : AbiType) :
    Grows language (mapType language type) type.tuples fun registry bound =>
      registry.boundType? language type = some bound := by
  induction type using AbiType.induct with
  | elementary kind =>
    rw [mapType]
    cases hkind : language.elementaryType kind with
    | ok bound =>
      refine (Grows.pure bound).imp (List.Subset.refl _) fun registry b hb => ?_
      rw [StructRegistry.boundType?, hkind, hb]
      rfl
    | error error => exact (Grows.throw error).imp (List.Subset.refl _) fun _ _ => False.elim
  | array element size ih =>
    rw [mapType]
    refine (ih.map (language.arrayType · size)).imp (List.Subset.refl _) ?_
    rintro registry _ ⟨bound, hbound, rfl⟩
    rw [StructRegistry.boundType?, hbound, Option.map_some]
  | slice element ih =>
    rw [mapType]
    refine (ih.map language.sliceType).imp (List.Subset.refl _) ?_
    rintro registry _ ⟨bound, hbound, rfl⟩
    rw [StructRegistry.boundType?, hbound, Option.map_some]
  | tuple fields ih =>
    rw [mapType]
    cases language.hasRecords with
    | true => exact grows_intern (grows_mapFields ih)
    | false => exact (Grows.throw _).imp (List.nil_subset _) fun _ _ => False.elim

/-- The fields of a tuple add the structs for the tuples inside it. -/
theorem grows_allFields (fields : TupleFields) :
    Grows language (mapFields language fields) (fieldTuples fields) fun registry boundTypes =>
      List.Forall₂ (fun field bound => registry.boundType? language field.2 = some bound) fields
        boundTypes :=
  grows_mapFields fun field _ => grows_mapType language field.2

/-- Mapping the type of a topic adds the same structs. -/
theorem grows_mapTopicType (type : AbiType) :
    Grows language (mapTopicType language type) type.tuples fun registry bound =>
      registry.topicType? language type = some bound := by
  rw [mapTopicType]
  refine ((grows_mapType language type).map fun bound =>
    if type.isHashedTopic then language.hashType else bound).imp (List.Subset.refl _) ?_
  rintro registry _ ⟨bound, hbound, rfl⟩
  rw [StructRegistry.topicType?, hbound]
  split <;> rfl

/-- Asking for the struct of a tuple does what mapping it does in a language with records. -/
theorem grows_resolveStruct (type : AbiType) :
    Grows language (resolveStruct language type) type.tuples fun registry name =>
      registry.boundType? language type = some name := by
  cases type with
  | tuple fields =>
    exact grows_intern (grows_allFields language fields)
  | elementary _ | array _ _ | slice _ =>
    exact (Grows.throw _).imp (List.nil_subset _) fun _ _ => False.elim

theorem grows_resolveTuple (type : AbiType) :
    Grows language (resolveTuple language type) type.tuples fun registry name =>
      registry.boundType? language type = some name := by
  rw [resolveTuple]
  split
  · exact grows_resolveStruct language type
  · exact (Grows.throw _).imp (List.nil_subset _) fun _ _ => False.elim

end Types

end ContractBindings
