import ContractBindings.Proofs.Struct.Invariant

/-!
# Field names and bound types

The names of tuple fields have no influence on bound types. Two registries are the same **up to
field names** if they are equal once these are erased (`StructRegistry.erased`). Two computations
are **in step** (`InStep`) if, from registries that are the same up to field names, both fail with
the same fault or both give related results, and either way leave registries that are the same up
to field names.

Mapping a type is in step with mapping its shape (`inStep_mapType`). Since a tuple and its shape
have the same signature, the two runs find the same struct or create one at the same moment; the
field names that are chosen on the way differ, but nothing reads them.
-/

namespace ContractBindings

/-! ### Shapes -/

namespace AbiType

/-- The shape of a type has no names left to erase. -/
@[simp]
theorem shape_shape (type : AbiType) : type.shape.shape = type.shape := by
  induction type using AbiType.induct with
  | elementary kind => rfl
  | array element size ih => rw [shape, shape, ih]
  | slice element ih => rw [shape, shape, ih]
  | tuple fields ih =>
    rw [shape, shape, fieldShapes_eq_map, fieldShapes_eq_map, List.map_map]
    exact congrArg tuple (List.map_congr_left fun field hfield => congrArg _ (ih field hfield))

@[simp]
theorem signature_shape (type : AbiType) : type.shape.signature = type.signature :=
  signature_eq_iff.mpr type.shape_shape

@[simp]
theorem isHashedTopic_shape (type : AbiType) : type.shape.isHashedTopic = type.isHashedTopic := by
  cases type <;> rfl

end AbiType

@[simp]
theorem tupleSignature_fieldShapes (fields : TupleFields) :
    tupleSignature (fieldShapes fields) = tupleSignature fields :=
  (AbiType.tuple fields).signature_shape

/-! ### Erasing field names -/

/-- A field without its name and those inside its type. -/
def StructField.erased (field : StructField) : StructField :=
  ⟨"", field.boundType, field.abiType.shape⟩

/-- A struct without the names of its fields. -/
def StructDescriptor.erased (struct : StructDescriptor) : StructDescriptor :=
  { struct with fields := struct.fields.map StructField.erased }

/-- The fields of a struct up to names: the given bound types, and the shapes of the types. -/
theorem map_erased_structFields (language : Language) (fields : TupleFields)
    (boundTypes : List String) :
    (structFields language fields boundTypes).map StructField.erased =
      (boundTypes.zip (fields.map fun field => field.2.shape)).map fun parts =>
        ⟨"", parts.1, parts.2⟩ := by
  have hlength : (boundTypes.zip (fields.map (·.2))).length ≤
      (language.fieldNames (fields.map (·.1))).length := by
    rw [List.length_zip, Language.length_fieldNames, List.length_map, List.length_map]
    exact Nat.min_le_right _ _
  have hshapes : boundTypes.zip (fields.map fun field => field.2.shape) =
      (boundTypes.zip (fields.map (·.2))).map fun parts => (parts.1, parts.2.shape) := by
    rw [List.zip_map_right, List.zip_map_right, List.map_map]
    rfl
  -- what is left of a field does not depend on its name
  rw [structFields, List.map_map, hshapes, List.map_map]
  conv_rhs => rw [← List.map_snd_zip hlength, List.map_map]
  rfl

theorem map_erased_structFields_fieldShapes (language : Language) (fields : TupleFields)
    (boundTypes : List String) :
    (structFields language (fieldShapes fields) boundTypes).map StructField.erased =
      (structFields language fields boundTypes).map StructField.erased := by
  simp only [map_erased_structFields, fieldShapes_eq_map, List.map_map, Function.comp_def,
    AbiType.shape_shape]

namespace StructRegistry

variable {registry other : StructRegistry}

/-- Erasing field names changes neither signatures nor places. -/
theorem isIndex_map_erased {index : TextMap Nat} {structs : List StructDescriptor}
    (h : IsIndex index structs) : IsIndex index (structs.map StructDescriptor.erased) where
  leads := by
    intro signature place hindex
    obtain ⟨struct, hplace, hsignature⟩ := h.leads hindex
    exact ⟨struct.erased, by rw [List.getElem?_map, hplace, Option.map_some], hsignature⟩
  enters := by
    intro other hother
    obtain ⟨struct, hstruct, rfl⟩ := List.mem_map.mp hother
    exact h.enters struct hstruct

/-- A registry without the field names of its structs. -/
def erased (registry : StructRegistry) : StructRegistry :=
  { registry with
    structs := registry.structs.map StructDescriptor.erased
    indexed := isIndex_map_erased registry.indexed }

theorem get?_erased (registry : StructRegistry) (signature : String) :
    registry.erased.get? signature = (registry.get? signature).map StructDescriptor.erased := by
  change (registry.index.get? signature).bind _ = ((registry.index.get? signature).bind _).map _
  rw [Option.map_bind]
  exact congrArg _ (funext fun place => List.getElem?_map)

theorem nextName_erased (registry : StructRegistry) (stem signature : String) :
    registry.erased.nextName stem signature = registry.nextName stem signature := by
  simp only [nextName, size, erased, List.length_map]

/-- A struct is added to registries that are the same up to field names. -/
theorem erased_add (h : registry.erased = other.erased) (stem signature : String)
    {fields others : List StructField}
    (hfields : fields.map StructField.erased = others.map StructField.erased) :
    (registry.add stem signature fields).erased = (other.add stem signature others).erased := by
  obtain ⟨hoverrides, hstructs, hindex⟩ := StructRegistry.ext_iff.mp h
  have hname : registry.nextName stem signature = other.nextName stem signature := by
    rw [← nextName_erased, h, nextName_erased]
  have hsize : registry.structs.length = other.structs.length := by
    simpa [erased] using congrArg List.length hstructs
  simp only [erased] at hoverrides hstructs hindex
  refine StructRegistry.ext hoverrides ?_ ?_
  · simp only [erased, structs_add, StructDescriptor.erased, List.map_append, List.map_singleton,
      hname, hfields]
    rw [hstructs]
  · simp only [erased, index_add, size, hindex, hsize]

theorem firstClash?_map_erased (earlier structs : List StructDescriptor) :
    firstClash? (earlier.map StructDescriptor.erased) (structs.map StructDescriptor.erased) =
      (firstClash? earlier structs).map fun clash => (clash.1.erased, clash.2.erased) := by
  induction structs generalizing earlier with
  | nil => rfl
  | cons struct rest ih =>
    have hfind : (earlier.map StructDescriptor.erased).find? (·.name == struct.erased.name) =
        (earlier.find? (·.name == struct.name)).map StructDescriptor.erased := by
      rw [List.find?_map]
      rfl
    rw [List.map_cons, firstClash?, firstClash?, hfind]
    cases earlier.find? (·.name == struct.name) with
    | some first => rfl
    | none => exact ih (struct :: earlier)

/-- The check of the display names does not look at fields. -/
theorem checkNames_erased (registry : StructRegistry) :
    registry.erased.checkNames = registry.checkNames := by
  have hclash := firstClash?_map_erased [] registry.structs
  rw [checkNames, checkNames, erased]
  rw [List.map_nil] at hclash
  rw [hclash]
  cases firstClash? [] registry.structs <;> rfl

end StructRegistry

/-! ### Computations in step -/

/-- **Outcomes alike**: the same fault or related results, and registries that are the same up to
field names. -/
inductive OutcomesAlike {α β : Type} (related : α → β → Prop) :
    Except BindError α × StructRegistry → Except BindError β × StructRegistry → Prop where
  /-- Both have a result. -/
  | ok {a : α} {b : β} {after other : StructRegistry} (h : related a b)
      (hregistry : after.erased = other.erased) :
      OutcomesAlike related (.ok a, after) (.ok b, other)
  /-- Both have failed. -/
  | error {fault : BindError} {after other : StructRegistry}
      (hregistry : after.erased = other.erased) :
      OutcomesAlike related (.error fault, after) (.error fault, other)

/-- Computations **in step**: what they give from registries that are the same up to field names is
alike. -/
def InStep {α β : Type} (x : Resolve α) (y : Resolve β) (related : α → β → Prop) : Prop :=
  ∀ before other : StructRegistry, before.erased = other.erased →
    OutcomesAlike related (x.outcome before) (y.outcome other)

namespace InStep

variable {α β γ δ : Type} {x : Resolve α} {y : Resolve β} {related : α → β → Prop}

protected theorem pure {a : α} {b : β} (h : related a b) :
    InStep (pure a) (pure b) related := fun _ _ hregistry => .ok h hregistry

protected theorem throw (fault : BindError) : InStep (throw fault) (throw fault) related :=
  fun _ _ hregistry => .error hregistry

protected theorem get :
    InStep get get fun before other : StructRegistry => before.erased = other.erased :=
  fun _ _ hregistry => .ok hregistry hregistry

protected theorem set {registry other : StructRegistry} (h : registry.erased = other.erased) :
    InStep (set registry) (set other) fun _ _ : PUnit => True := fun _ _ _ => .ok trivial h

/-- A result that is given is the same in both runs. -/
protected theorem ofExcept (result : Except BindError α) :
    InStep (.ofExcept result) (.ofExcept result) Eq := by
  intro before other hregistry
  cases result with
  | ok a => exact .ok rfl hregistry
  | error fault => exact .error hregistry

/-- One computation after the other. -/
protected theorem bind {f : α → Resolve γ} {g : β → Resolve δ} {result : γ → δ → Prop}
    (hx : InStep x y related) (hf : ∀ a b, related a b → InStep (f a) (g b) result) :
    InStep (x >>= f) (y >>= g) result := by
  intro before other hregistry
  have hfirst := hx before other hregistry
  rw [Resolve.outcome_bind, Resolve.outcome_bind]
  generalize x.outcome before = first at hfirst ⊢
  generalize y.outcome other = second at hfirst ⊢
  cases hfirst with
  | ok hrelated hmiddle => exact hf _ _ hrelated _ _ hmiddle
  | error hmiddle => exact .error hmiddle

/-- Computations that are in step with the same one are in step with each other. -/
theorem of_common {z : Resolve γ} {first : α → γ → Prop} {second : β → γ → Prop}
    (hx : InStep x z first) (hy : InStep y z second)
    (h : ∀ a b c, first a c → second b c → related a b) : InStep x y related := by
  intro before other hregistry
  have hleft := hx before other hregistry
  have hright := hy other other rfl
  generalize x.outcome before = left at hleft ⊢
  generalize y.outcome other = right at hright ⊢
  generalize z.outcome other = common at hleft hright
  cases hleft with
  | ok hfirst hmiddle =>
    cases hright with
    | ok hsecond hlast => exact .ok (h _ _ _ hfirst hsecond) (hmiddle.trans hlast.symm)
  | error hmiddle =>
    cases hright with
    | error hlast => exact .error (hmiddle.trans hlast.symm)

/-- Computations whose results are only rewritten. -/
protected theorem map {result : γ → δ → Prop} {f : α → γ} {g : β → δ} (hx : InStep x y related)
    (hf : ∀ a b, related a b → result (f a) (g b)) :
    InStep (x >>= fun a => pure (f a)) (y >>= fun b => pure (g b)) result :=
  hx.bind fun a b h => .pure (hf a b h)

/-- Computations for the items of a list, and those for their images. -/
protected theorem mapM {ι κ : Type} {items : List ι} {image : ι → κ} {f : ι → Resolve α}
    {g : κ → Resolve β} (h : ∀ item ∈ items, InStep (f item) (g (image item)) related) :
    InStep (items.mapM f) ((items.map image).mapM g) (List.Forall₂ related) := by
  induction items with
  | nil => exact .pure .nil
  | cons item rest ih =>
    obtain ⟨hitem, hrest⟩ := List.forall_mem_cons.mp h
    rw [List.map_cons, List.mapM_cons, List.mapM_cons]
    refine hitem.bind fun a b hab => (ih hrest).bind fun as bs hrelated => .pure ?_
    exact .cons hab hrelated

/-- A computation for an optional item, and the one for its image. -/
protected theorem optionMapM {ι κ : Type} {item : Option ι} {image : ι → κ} {f : ι → Resolve α}
    {g : κ → Resolve β} (h : ∀ a ∈ item, InStep (f a) (g (image a)) related) :
    InStep (item.mapM f) ((item.map image).mapM g) (Option.Rel related) := by
  cases item with
  | none => exact .pure .none
  | some a => exact (h a rfl).map fun _ _ => .some

end InStep

/-! ### Types -/

section Types

variable {language : Language}

/-- Asking for the struct of a tuple is in step with asking for that of its shape, if the fields are
mapped in step. -/
theorem inStep_intern {fields : TupleFields} {mapAll mapShapes : Resolve (List String)}
    (h : InStep mapAll mapShapes Eq) :
    InStep (intern language fields mapAll) (intern language (fieldShapes fields) mapShapes) Eq := by
  rw [intern, intern, ← tupleSignature, ← tupleSignature, tupleSignature_fieldShapes]
  refine InStep.get.bind fun before other hregistry => ?_
  -- the same signature is looked up in both registries
  have hfound : (before.get? (tupleSignature fields)).map StructDescriptor.erased =
      (other.get? (tupleSignature fields)).map StructDescriptor.erased := by
    rw [← StructRegistry.get?_erased, hregistry, StructRegistry.get?_erased]
  cases hfirst : before.get? (tupleSignature fields) with
  | some struct =>
    rw [hfirst, eq_comm, Option.map_some, Option.map_eq_some_iff] at hfound
    obtain ⟨second, hsecond, hsame⟩ := hfound
    have hname : second.erased.name = struct.erased.name := by rw [hsame]
    rw [hsecond]
    exact .pure hname.symm
  | none =>
    rw [hfirst, eq_comm, Option.map_none, Option.map_eq_none_iff] at hfound
    rw [hfound]
    refine h.bind fun boundTypes _ hbound => InStep.get.bind fun middle last hmiddle => ?_
    subst hbound
    have hname : middle.nextName language.structStem (tupleSignature fields) =
        last.nextName language.structStem (tupleSignature fields) := by
      rw [← StructRegistry.nextName_erased, hmiddle, StructRegistry.nextName_erased]
    have hadded := StructRegistry.erased_add hmiddle language.structStem (tupleSignature fields)
      (map_erased_structFields_fieldShapes language fields boundTypes).symm
    exact (InStep.set hadded).bind fun _ _ _ => .pure hname

/-- Mapping the fields of a tuple is in step with mapping those of its shape, if mapping each of
them is. -/
theorem inStep_mapFields {fields : TupleFields}
    (h : ∀ field ∈ fields, InStep (mapType language field.2) (mapType language field.2.shape) Eq) :
    InStep (mapFields language fields) (mapFields language (fieldShapes fields)) Eq := by
  rw [mapFields_eq_mapM, mapFields_eq_mapM, fieldShapes_eq_map]
  have hmapM : InStep (fields.mapM fun field => mapType language field.2)
      ((fields.map fun field => ("", field.2.shape)).mapM fun field =>
        mapType language field.2) (List.Forall₂ Eq) := .mapM h
  rwa [List.forall₂_eq_eq_eq] at hmapM

/-- **Mapping a type** is in step with mapping its shape. -/
theorem inStep_mapType (type : AbiType) :
    InStep (mapType language type) (mapType language type.shape) Eq := by
  induction type using AbiType.induct with
  | elementary kind => exact .ofExcept _
  | array element size ih =>
    rw [AbiType.shape, mapType, mapType]
    exact ih.map fun _ _ hbound => hbound ▸ rfl
  | slice element ih =>
    rw [AbiType.shape, mapType, mapType]
    exact ih.map fun _ _ hbound => hbound ▸ rfl
  | tuple fields ih =>
    have hsignature := (AbiType.tuple fields).signature_shape
    rw [AbiType.shape] at hsignature ⊢
    rw [mapType, mapType, hsignature]
    split
    · exact inStep_intern (inStep_mapFields ih)
    · exact .throw _

theorem inStep_mapTopicType (type : AbiType) :
    InStep (mapTopicType language type) (mapTopicType language type.shape) Eq := by
  rw [mapTopicType, mapTopicType]
  refine (inStep_mapType type).map fun bound _ hbound => ?_
  rw [hbound, AbiType.isHashedTopic_shape]

/-- Asking for the struct of a type is in step with asking for that of its shape. -/
theorem inStep_resolveStruct (type : AbiType) :
    InStep (resolveStruct language type) (resolveStruct language type.shape) Eq := by
  cases type with
  | tuple fields => exact inStep_intern (inStep_mapFields fun field _ => inStep_mapType field.2)
  | elementary _ | array _ _ | slice _ =>
    change InStep (throw (.malformedType (.notTuple _)))
      (throw (.malformedType (.notTuple (AbiType.shape _).signature))) Eq
    rw [AbiType.signature_shape]
    exact .throw _

theorem inStep_resolveTuple (type : AbiType) :
    InStep (resolveTuple language type) (resolveTuple language type.shape) Eq := by
  rw [resolveTuple, resolveTuple, AbiType.signature_shape]
  split
  · exact inStep_resolveStruct type
  · exact .throw _

end Types

end ContractBindings
