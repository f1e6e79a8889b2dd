import ContractBindings.Proofs.Abi.Legal
import ContractBindings.Proofs.Struct.Run
import ContractBindings.Proofs.Struct.Traversal

/-!
# What a computation registers

`Registers x tuples value` says that the computation `x`, where it succeeds, has the same effect
as a traversal of `tuples`: it takes the registry of any closed traversal to that of the
traversal continued by `tuples`, and its result is `value` at the display names that there are
then. The tuples and the value do not mention the registry, so everything that a computation
does to it is said once.

`registers_mapType` is the statement about single types. The registry remembers which signatures
it has seen and passes over the tuples inside them; that this loses nothing is the argument in
the case of a tuple.
-/

namespace ContractBindings

open StructRegistry (ofTraversal)

/-- **Effect** of a computation: it registers `tuples` and gives `value` at the final names. -/
structure Registers {α : Type} (language : Language) (overrides : TextMap String)
    (x : Resolve α) (tuples : List TupleFields) (value : (String → String) → α) : Prop where
  /-- The tuples inside the tuples are registered too. -/
  closed : ClosedTuples tuples
  /-- The value depends on no other names than those of the tuples. -/
  congr : ∀ names others : String → String,
    (∀ fields ∈ tuples, names (tupleSignature fields) = others (tupleSignature fields)) →
      value names = value others
  /-- A successful run continues the traversal. -/
  run : ∀ {earlier : List TupleFields} {a : α} {after : StructRegistry}, ClosedTuples earlier →
    x.Yields (ofTraversal language overrides earlier) a after →
      after = ofTraversal language overrides (earlier ++ tuples) ∧
        a = value (displayName language overrides (earlier ++ tuples))

namespace Registers

variable {α β : Type} {language : Language} {overrides : TextMap String}

/-- A result without any effect. -/
protected theorem pure (a : α) :
    Registers language overrides (pure a) [] fun _ => a where
  closed := fun _ h => absurd h List.not_mem_nil
  congr := fun _ _ _ => rfl
  run := by
    intro earlier b after _ h
    obtain ⟨rfl, rfl⟩ := Resolve.yields_pure.mp h
    exact ⟨by rw [List.append_nil], rfl⟩

/-- A failure has every effect, since it has no successful run. -/
protected theorem throw (error : BindError) {tuples : List TupleFields}
    {value : (String → String) → α} (hclosed : ClosedTuples tuples)
    (hcongr : ∀ names others : String → String,
      (∀ fields ∈ tuples, names (tupleSignature fields) = others (tupleSignature fields)) →
        value names = value others) :
    Registers language overrides (throw error) tuples value where
  closed := hclosed
  congr := hcongr
  run := fun _ h => absurd h Resolve.not_yields_throw

/-- One computation after the other. -/
protected theorem bind {x : Resolve α} {tuples : List TupleFields}
    {value : (String → String) → α} {f : α → Resolve β} {others : List TupleFields}
    {result : α → (String → String) → β} (hx : Registers language overrides x tuples value)
    (hf : ∀ a, Registers language overrides (f a) others (result a)) :
    Registers language overrides (x >>= f) (tuples ++ others)
      fun names => result (value names) names where
  closed := hx.closed.append (hf (value fun _ => "")).closed
  congr := by
    intro names third h
    have hvalue := hx.congr names third fun fields hmem => h fields (List.mem_append_left _ hmem)
    rw [hvalue]
    exact (hf _).congr names third fun fields hmem => h fields (List.mem_append_right _ hmem)
  run := by
    intro earlier b after hearlier h
    obtain ⟨a, middle, hfirst, hsecond⟩ := Resolve.yields_bind.mp h
    obtain ⟨rfl, rfl⟩ := hx.run hearlier hfirst
    obtain ⟨rfl, rfl⟩ := (hf _).run (hearlier.append hx.closed) hsecond
    rw [List.append_assoc]
    refine ⟨rfl, ?_⟩
    -- the names used by the first computation are still those at the end
    have hvalue : value (displayName language overrides (earlier ++ tuples)) =
        value (displayName language overrides (earlier ++ (tuples ++ others))) := by
      refine hx.congr _ _ fun fields hmem => ?_
      rw [← List.append_assoc]
      exact (displayName_append (List.mem_map_of_mem (List.mem_append_right _ hmem))).symm
    rw [hvalue]

/-- A computation whose result is only rewritten. -/
protected theorem map {x : Resolve α} {tuples : List TupleFields}
    {value : (String → String) → α} (hx : Registers language overrides x tuples value)
    (f : α → β) :
    Registers language overrides (x >>= fun a => pure (f a)) tuples fun names => f (value names) :=
  List.append_nil tuples ▸ hx.bind fun a => .pure (f a)

/-- Computations for the items of a list, one after the other. -/
protected theorem mapM {items : List α} {f : α → Resolve β} {tuples : α → List TupleFields}
    {value : (String → String) → α → β}
    (h : ∀ item ∈ items,
      Registers language overrides (f item) (tuples item) fun names => value names item) :
    Registers language overrides (items.mapM f) (items.flatMap tuples) fun names =>
      items.map (value names) := by
  induction items with
  | nil => exact .pure []
  | cons item rest ih =>
    rw [List.mapM_cons, List.flatMap_cons]
    exact (h item List.mem_cons_self).bind fun first =>
      (ih fun other hother => h other (List.mem_cons_of_mem _ hother)).map (first :: ·)

/-- A computation for an optional item. -/
protected theorem optionMapM {item : Option α} {f : α → Resolve β}
    {tuples : α → List TupleFields} {value : (String → String) → α → β}
    (h : ∀ a, Registers language overrides (f a) (tuples a) fun names => value names a) :
    Registers language overrides (item.mapM f) (item.toList.flatMap tuples) fun names =>
      item.map (value names) := by
  cases item with
  | none => exact .pure none
  | some a =>
    have hsome := (h a).map some
    rwa [← List.append_nil (tuples a), ← List.flatMap_nil (f := tuples),
      ← List.flatMap_cons] at hsome

end Registers

/-! ### Types -/

section Types

variable (language : Language) (overrides : TextMap String)

/-- If the signature of a tuple has occurred, so have those of all tuples inside it: the earlier
tuple has the same shape. -/
private theorem mem_map_tuples_of_seen {earlier : List TupleFields} {fields : TupleFields}
    (hearlier : ClosedTuples earlier)
    (hseen : tupleSignature fields ∈ earlier.map tupleSignature) :
    ∀ inner ∈ (AbiType.tuple fields).tuples,
      tupleSignature inner ∈ earlier.map tupleSignature := by
  obtain ⟨known, hknown, hsame⟩ := List.mem_map.mp hseen
  have hsubset : (AbiType.tuple known).tuples ⊆ earlier := by
    intro inner hinner
    rcases List.mem_append.mp hinner with hinner | hself
    · exact hearlier known hknown inner hinner
    · exact List.mem_singleton.mp hself ▸ hknown
  intro inner hinner
  have hmem := List.mem_map_of_mem hinner (f := tupleSignature)
  rw [map_tuples_of_tupleSignature_eq hsame.symm] at hmem
  exact List.map_subset _ hsubset hmem

/-- A tuple registers the tuples inside it and then itself. If its signature is known, none of
them is new: the known tuple has the same shape, so that the tuples inside it have the same
signatures, and these were registered with it. -/
theorem registers_intern {fields : TupleFields} {mapAll : Resolve (List String)}
    (h : Registers language overrides mapAll (fieldTuples fields) fun names =>
      fields.map fun field => language.boundText names field.2) :
    Registers language overrides (intern language fields mapAll) (AbiType.tuple fields).tuples
      fun names => language.boundText names (.tuple fields) where
  closed := AbiType.closedTuples_tuples (.tuple fields)
  congr := fun names others hagree => Language.boundText_congr hagree
  run := by
    intro earlier name after hearlier hrun
    obtain ⟨registry, _, hget, hrun⟩ := Resolve.yields_bind.mp hrun
    obtain ⟨rfl, rfl⟩ := Resolve.yields_get.mp hget
    have hknown : ((ofTraversal language overrides earlier).get? (tupleSignature fields)).map
        (·.name) = _ := StructRegistry.get?_ofTraversal _
    rw [AbiType.tuples]
    by_cases hseen : tupleSignature fields ∈ earlier.map tupleSignature
    · -- the run stops at the struct that is there, and a full traversal would add nothing
      rw [if_pos hseen] at hknown
      obtain ⟨struct, hfound, hname⟩ := Option.map_eq_some_iff.mp hknown
      rw [← tupleSignature, hfound] at hrun
      obtain ⟨rfl, rfl⟩ := Resolve.yields_pure.mp hrun
      obtain ⟨hsame, hnames⟩ : _ ∧ displayName language overrides _ = _ :=
        StructRegistry.ofTraversal_append_of_seen (mem_map_tuples_of_seen hearlier hseen)
      rw [AbiType.tuples] at hsame hnames
      exact ⟨hsame.symm, by rw [hname, Language.boundText, hnames]⟩
    · -- the fields are mapped first, so the inner tuples are in the registry before this one
      rw [if_neg hseen] at hknown
      rw [← tupleSignature, Option.map_eq_none_iff.mp hknown] at hrun
      obtain ⟨boundTypes, middle, hall, hrun⟩ := Resolve.yields_bind.mp hrun
      obtain ⟨rfl, rfl⟩ := h.run hearlier hall
      obtain ⟨registry, _, hget, hrun⟩ := Resolve.yields_bind.mp hrun
      obtain ⟨rfl, rfl⟩ := Resolve.yields_get.mp hget
      obtain ⟨_, middle, hset, hrun⟩ := Resolve.yields_bind.mp hrun
      rw [Resolve.yields_set] at hset
      obtain ⟨rfl, rfl⟩ := Resolve.yields_pure.mp hrun
      have hnew : tupleSignature fields ∉ (earlier ++ fieldTuples fields).map tupleSignature := by
        rw [List.map_append, List.mem_append, not_or]
        refine ⟨hseen, fun hmem => ?_⟩
        obtain ⟨inner, hinner, hsame⟩ := List.mem_map.mp hmem
        exact tupleSignature_ne_of_mem hinner hsame
      rw [← List.append_assoc, ← hset, Language.boundText,
        StructRegistry.ofTraversal_append_new (hearlier.append h.closed)
          (List.subset_append_right _ _) hnew]
      exact ⟨rfl, StructRegistry.nextName_ofTraversal hnew⟩

/-- **Mapping a type** registers the tuples inside it and gives its bound type. -/
theorem registers_mapType (type : AbiType) :
    Registers language overrides (mapType language type) type.tuples fun names =>
      language.boundText names type := by
  induction type using AbiType.induct with
  | elementary kind =>
    rw [mapType, Language.elementaryType]
    cases hcheck : kind.checkWidth with
    | ok checked =>
      rw [(Elementary.checkWidth_eq_ok_iff.mp hcheck).2]
      exact .pure _
    | error fault =>
      exact .throw _ (AbiType.closedTuples_tuples (.elementary kind)) fun _ _ _ => rfl
  | array element size ih =>
    rw [mapType]
    exact ih.map (language.arrayType · size)
  | slice element ih =>
    rw [mapType]
    exact ih.map language.sliceType
  | tuple fields ih =>
    have hfields : Registers language overrides (mapFields language fields) (fieldTuples fields)
        fun names => fields.map fun field => language.boundText names field.2 := by
      rw [mapFields_eq_mapM, fieldTuples_eq_flatMap]
      exact .mapM ih
    rw [mapType]
    cases language.hasRecords with
    | true => exact registers_intern language overrides hfields
    | false => exact .throw _ (AbiType.closedTuples_tuples (.tuple fields)) fun _ _ hagree =>
        Language.boundText_congr hagree

/-- The type of a topic registers the same tuples. -/
theorem registers_mapTopicType (type : AbiType) :
    Registers language overrides (mapTopicType language type) type.tuples fun names =>
      if type.isHashedTopic then language.hashType else language.boundText names type :=
  (registers_mapType language overrides type).map fun bound =>
    if type.isHashedTopic then language.hashType else bound

end Types

end ContractBindings
