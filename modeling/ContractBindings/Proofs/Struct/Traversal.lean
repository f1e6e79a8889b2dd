import ContractBindings.Proofs.Abi.Shape
import ContractBindings.Proofs.Struct.Index
import ContractBindings.Struct.Resolve
import Mathlib.Data.List.Basic
import Mathlib.Data.List.Induction

/-!
# The registry of a full traversal

`AbiType.tuples` lists the tuples inside a type without any memory: the fields of a tuple from
left to right and then the tuple itself, through all arrays and slices. From such a list
`StructRegistry.ofTraversal` makes a registry in one go: the first tuple of every signature
becomes a struct, numbered by its place among these.

The main statements say how the registry of a traversal grows. Tuples whose signatures have
occurred change nothing (`ofTraversal_append_of_seen`), and a tuple of a new signature adds one
struct behind the others (`ofTraversal_append_new`). The second one needs that the traversal is
**closed**, that is, a tuple's inner tuples occur in it too: otherwise a bound type inside an
earlier struct could change.
-/

namespace ContractBindings

/-! ### Tuples inside a type -/

mutual

/-- The tuples inside a type, in post-order. -/
def AbiType.tuples : AbiType → List TupleFields
  | .elementary _ => []
  | .array element _ => element.tuples
  | .slice element => element.tuples
  | .tuple fields => fieldTuples fields ++ [fields]

/-- The tuples inside the types of a tuple's fields. -/
def fieldTuples : List (String × AbiType) → List TupleFields
  | [] => []
  | (_, type) :: rest => type.tuples ++ fieldTuples rest

end

theorem fieldTuples_eq_flatMap (fields : TupleFields) :
    fieldTuples fields = fields.flatMap fun field => field.2.tuples := by
  induction fields with
  | nil => rfl
  | cons field rest ih => rw [fieldTuples, ih, List.flatMap_cons]

/-- A tuple is the last one inside itself. -/
theorem AbiType.self_mem_tuples (fields : TupleFields) : fields ∈ (AbiType.tuple fields).tuples :=
  List.mem_append_right _ (List.mem_singleton_self fields)

theorem tuples_subset_fieldTuples {fields : TupleFields} {field : String × AbiType}
    (h : field ∈ fields) : field.2.tuples ⊆ fieldTuples fields := by
  rw [fieldTuples_eq_flatMap]
  exact fun _ hinner => List.mem_flatMap.mpr ⟨field, h, hinner⟩

/-- The canonical signature of a tuple, given its fields. -/
def tupleSignature (fields : TupleFields) : String := (AbiType.tuple fields).signature

/-- **Closed** list of tuples: it has all tuples inside its tuples. -/
def ClosedTuples (tuples : List TupleFields) : Prop :=
  ∀ fields ∈ tuples, ∀ inner ∈ fieldTuples fields, inner ∈ tuples

theorem ClosedTuples.append {tuples others : List TupleFields} (h : ClosedTuples tuples)
    (hothers : ClosedTuples others) : ClosedTuples (tuples ++ others) := by
  intro fields hfields inner hinner
  rcases List.mem_append.mp hfields with hmem | hmem
  · exact List.mem_append_left _ (h fields hmem inner hinner)
  · exact List.mem_append_right _ (hothers fields hmem inner hinner)

theorem closedTuples_flatMap {α : Type} {items : List α} {tuples : α → List TupleFields}
    (h : ∀ item ∈ items, ClosedTuples (tuples item)) : ClosedTuples (items.flatMap tuples) := by
  intro fields hfields inner hinner
  obtain ⟨item, hitem, hmem⟩ := List.mem_flatMap.mp hfields
  exact List.mem_flatMap.mpr ⟨item, hitem, h item hitem fields hmem inner hinner⟩

/-- The tuples inside a type are closed. -/
theorem AbiType.closedTuples_tuples (type : AbiType) : ClosedTuples type.tuples := by
  induction type using AbiType.induct with
  | elementary kind => exact fun fields hfields => absurd hfields List.not_mem_nil
  | array element size ih => exact ih
  | slice element ih => exact ih
  | tuple fields ih =>
    have hinner : ClosedTuples (fieldTuples fields) := by
      rw [fieldTuples_eq_flatMap]
      exact closedTuples_flatMap ih
    intro other hother inner hmem
    rcases List.mem_append.mp hother with hother | hother
    · exact List.mem_append_left _ (hinner other hother inner hmem)
    · rw [List.mem_singleton.mp hother] at hmem
      exact List.mem_append_left _ hmem

/-- The signatures of the tuples inside a type are determined by its shape. -/
theorem AbiType.map_tuples_shape (type : AbiType) :
    type.shape.tuples.map tupleSignature = type.tuples.map tupleSignature := by
  induction type using AbiType.induct with
  | elementary kind => rfl
  | array element size ih => exact ih
  | slice element ih => exact ih
  | tuple fields ih =>
    have hinner : (fieldTuples (fieldShapes fields)).map tupleSignature =
        (fieldTuples fields).map tupleSignature := by
      rw [fieldTuples_eq_flatMap, fieldTuples_eq_flatMap, fieldShapes_eq_map, List.flatMap_map,
        List.map_flatMap, List.map_flatMap]
      rw [List.flatMap, List.flatMap, List.map_congr_left ih]
    have houter : tupleSignature (fieldShapes fields) = tupleSignature fields := by
      rw [tupleSignature, tupleSignature, AbiType.signature, AbiType.signature,
        ← AbiType.signatureChars_shape (.tuple fields), AbiType.shape]
    rw [AbiType.shape, AbiType.tuples, AbiType.tuples, List.map_append, List.map_append, hinner,
      List.map_singleton, List.map_singleton, houter]

/-- Tuples of the same signature have tuples of the same signatures inside. -/
theorem map_tuples_of_tupleSignature_eq {fields others : TupleFields}
    (h : tupleSignature fields = tupleSignature others) :
    (AbiType.tuple fields).tuples.map tupleSignature =
      (AbiType.tuple others).tuples.map tupleSignature := by
  have hshape : (AbiType.tuple fields).shape = (AbiType.tuple others).shape :=
    AbiType.signature_eq_iff.mp h
  rw [← AbiType.map_tuples_shape, hshape, AbiType.map_tuples_shape]

/-- Tuples of the same signature have fields of the same shapes. -/
theorem map_shape_of_tupleSignature_eq {fields others : TupleFields}
    (h : tupleSignature fields = tupleSignature others) :
    fields.map (·.2.shape) = others.map (·.2.shape) := by
  have hshape : (AbiType.tuple fields).shape = (AbiType.tuple others).shape :=
    AbiType.signature_eq_iff.mp h
  rw [AbiType.shape, AbiType.shape, AbiType.tuple.injEq, fieldShapes_eq_map,
    fieldShapes_eq_map] at hshape
  have hsecond := congrArg (List.map (·.2)) hshape
  rwa [List.map_map, List.map_map] at hsecond

/-- The signature of a tuple depends on the types of its fields only. -/
theorem tupleSignature_congr {fields others : TupleFields}
    (h : fields.map (·.2) = others.map (·.2)) : tupleSignature fields = tupleSignature others := by
  refine AbiType.signature_eq_iff.mpr ?_
  have hshapes := congrArg (List.map fun type : AbiType => ("", type.shape)) h
  rw [List.map_map, List.map_map] at hshapes
  rw [AbiType.shape, AbiType.shape, fieldShapes_eq_map, fieldShapes_eq_map]
  exact congrArg AbiType.tuple hshapes

/-- A field's signature is part of the tuple's. -/
private theorem length_signatureChars_le_of_mem {fields : TupleFields} {field : String × AbiType}
    (h : field ∈ fields) :
    field.2.signatureChars.length ≤ (AbiType.fieldSignatureChars fields).length := by
  induction fields with
  | nil => exact absurd h List.not_mem_nil
  | cons head rest ih =>
    rw [AbiType.fieldSignatureChars_cons, List.length_append]
    rcases List.mem_cons.mp h with rfl | hrest
    · omega
    · rw [if_neg (List.ne_nil_of_mem hrest), List.length_cons]
      have := ih hrest
      omega

/-- The signature of a type is at least as long as those of the tuples inside it. -/
theorem length_signatureChars_le_of_mem_tuples {type : AbiType} {fields : TupleFields}
    (h : fields ∈ type.tuples) :
    (AbiType.tuple fields).signatureChars.length ≤ type.signatureChars.length := by
  induction type using AbiType.induct with
  | elementary kind => exact absurd h List.not_mem_nil
  | array element size ih =>
    simp only [AbiType.signatureChars, List.length_append] at ih ⊢
    have := ih h
    omega
  | slice element ih =>
    simp only [AbiType.signatureChars, List.length_append] at ih ⊢
    have := ih h
    omega
  | tuple others ih =>
    rcases List.mem_append.mp h with hinner | hself
    · rw [fieldTuples_eq_flatMap] at hinner
      obtain ⟨field, hfield, hmem⟩ := List.mem_flatMap.mp hinner
      have hle := ih field hfield hmem
      have hpart := length_signatureChars_le_of_mem hfield
      simp only [AbiType.signatureChars, List.length_append, List.length_cons] at hle ⊢
      omega
    · exact Nat.le_of_eq (congrArg (fun fields => (AbiType.tuple fields).signatureChars.length)
        (List.mem_singleton.mp hself))

/-- A tuple has another signature than the tuples inside it, which is longer. -/
theorem tupleSignature_ne_of_mem {fields inner : TupleFields} (h : inner ∈ fieldTuples fields) :
    tupleSignature inner ≠ tupleSignature fields := by
  intro heq
  rw [fieldTuples_eq_flatMap] at h
  obtain ⟨field, hfield, hmem⟩ := List.mem_flatMap.mp h
  have hle := length_signatureChars_le_of_mem_tuples hmem
  have hpart := length_signatureChars_le_of_mem hfield
  rw [tupleSignature, tupleSignature, AbiType.signature, AbiType.signature,
    String.ofList_inj] at heq
  rw [heq] at hle
  -- the parentheses of the tuple are not part of the field
  simp only [AbiType.signatureChars, List.length_append, List.length_cons] at hle
  omega

/-! ### The first tuple of every signature -/

/-- The first tuple of every signature, in the order of the list. -/
def firstTuples (tuples : List TupleFields) : List TupleFields :=
  tuples.eraseDupsBy fun fields earlier => tupleSignature fields == tupleSignature earlier

@[simp]
theorem firstTuples_nil : firstTuples [] = [] := rfl

theorem firstTuples_cons (fields : TupleFields) (rest : List TupleFields) :
    firstTuples (fields :: rest) =
      fields :: firstTuples (rest.filter (tupleSignature · ≠ tupleSignature fields)) := by
  rw [firstTuples, List.eraseDupsBy_cons, firstTuples]
  congr 2
  exact List.filter_congr fun other _ => by
    by_cases h : tupleSignature other = tupleSignature fields <;> simp [h]

/-- Of the tuples that follow others, only those of new signatures count. -/
theorem firstTuples_append (tuples others : List TupleFields) :
    firstTuples (tuples ++ others) = firstTuples tuples ++
      firstTuples (others.filter (tupleSignature · ∉ tuples.map tupleSignature)) := by
  match tuples with
  | [] => simp
  | fields :: rest =>
    rw [List.cons_append, firstTuples_cons, List.filter_append, firstTuples_append (rest.filter _),
      firstTuples_cons, List.cons_append, List.filter_filter]
    congr 3
    refine List.filter_congr fun other _ => ?_
    by_cases hsame : tupleSignature other = tupleSignature fields
    · simp [hsame]
    · -- what was left out of `rest` has the signature of `fields`, so it is not `other`
      have hiff : tupleSignature other ∈ (rest.filter (tupleSignature · ≠
          tupleSignature fields)).map tupleSignature ↔
          tupleSignature other ∈ (fields :: rest).map tupleSignature := by
        simp only [List.mem_map, List.mem_filter, decide_eq_true_eq, List.map_cons, List.mem_cons,
          hsame, false_or]
        exact exists_congr fun third => ⟨fun h => ⟨h.1.1, h.2⟩,
          fun h => ⟨⟨h.1, fun heq => hsame (h.2.symm.trans heq)⟩, h.2⟩⟩
      simp only [hiff, hsame, not_false_eq_true, decide_true, Bool.and_true, ne_eq]
termination_by tuples.length
decreasing_by exact Nat.lt_succ_of_le (List.length_filter_le _ rest)

theorem firstTuples_append_of_seen {tuples others : List TupleFields}
    (h : ∀ fields ∈ others, tupleSignature fields ∈ tuples.map tupleSignature) :
    firstTuples (tuples ++ others) = firstTuples tuples := by
  have hnone : others.filter (tupleSignature · ∉ tuples.map tupleSignature) = [] :=
    List.filter_eq_nil_iff.mpr fun fields hfields => by simpa using h fields hfields
  rw [firstTuples_append, hnone, firstTuples_nil, List.append_nil]

theorem firstTuples_append_new {tuples : List TupleFields} {fields : TupleFields}
    (h : tupleSignature fields ∉ tuples.map tupleSignature) :
    firstTuples (tuples ++ [fields]) = firstTuples tuples ++ [fields] := by
  rw [firstTuples_append, List.filter_cons_of_pos (by simpa using h), List.filter_nil,
    firstTuples_cons, List.filter_nil, firstTuples_nil]

/-- Every first tuple is a tuple, and every signature has a first tuple. -/
theorem firstTuples_subset (tuples : List TupleFields) : firstTuples tuples ⊆ tuples := by
  match tuples with
  | [] => simp
  | fields :: rest =>
    rw [firstTuples_cons]
    refine List.cons_subset_cons fields fun other hother => ?_
    exact (List.mem_filter.mp (firstTuples_subset (rest.filter _) hother)).1
termination_by tuples.length
decreasing_by exact Nat.lt_succ_of_le (List.length_filter_le _ rest)

theorem mem_map_firstTuples {tuples : List TupleFields} {signature : String} :
    signature ∈ (firstTuples tuples).map tupleSignature ↔
      signature ∈ tuples.map tupleSignature := by
  refine ⟨fun h => List.map_subset _ (firstTuples_subset tuples) h, fun h => ?_⟩
  induction tuples using List.reverseRecOn with
  | nil => exact h
  | append_singleton tuples fields ih =>
    by_cases hseen : tupleSignature fields ∈ tuples.map tupleSignature
    · rw [firstTuples_append_of_seen (by simpa using hseen)]
      rw [List.map_append, List.mem_append] at h
      rcases h with h | h
      · exact ih h
      · rw [List.map_singleton, List.mem_singleton] at h
        exact ih (h ▸ hseen)
    · rw [firstTuples_append_new hseen, List.map_append, List.mem_append]
      rw [List.map_append, List.mem_append] at h
      exact h.imp_left ih

/-- No two first tuples have the same signature. -/
theorem nodup_map_firstTuples (tuples : List TupleFields) :
    ((firstTuples tuples).map tupleSignature).Nodup := by
  induction tuples using List.reverseRecOn with
  | nil => exact List.nodup_nil
  | append_singleton tuples fields ih =>
    by_cases hseen : tupleSignature fields ∈ tuples.map tupleSignature
    · rwa [firstTuples_append_of_seen (by simpa using hseen)]
    · rw [firstTuples_append_new hseen, List.map_append, List.map_singleton]
      rw [← mem_map_firstTuples] at hseen
      refine List.nodup_append.mpr ⟨ih, List.pairwise_singleton _ _, ?_⟩
      rintro signature hmem other hother rfl
      exact hseen (List.mem_singleton.mp hother ▸ hmem)

/-! ### Bound types and display names -/

/-- The bound type of a type, where `names` gives the display names by signature. -/
def Language.boundText (language : Language) (names : String → String) : AbiType → String
  | .elementary kind => language.elementaryName kind
  | .array element size => language.arrayType (language.boundText names element) size
  | .slice element => language.sliceType (language.boundText names element)
  | .tuple fields => names (tupleSignature fields)

/-- A bound type depends on no other names than those of the tuples inside the type. -/
theorem Language.boundText_congr {language : Language} {names others : String → String}
    {type : AbiType}
    (h : ∀ fields ∈ type.tuples, names (tupleSignature fields) = others (tupleSignature fields)) :
    language.boundText names type = language.boundText others type := by
  induction type using AbiType.induct with
  | elementary kind => rfl
  | array element size ih => rw [boundText, boundText, ih h]
  | slice element ih => rw [boundText, boundText, ih h]
  | tuple fields ih => exact h fields (AbiType.self_mem_tuples fields)

section Naming

variable (language : Language) (overrides : TextMap String)

/-- The display name of the struct at the given place: the custom name for the signature, or
else the stem of the language followed by the place. -/
def placedName (place : Nat) (signature : String) : String :=
  (overrides.get? signature).getD (language.structStem ++ toString place)

/-- The display name for a signature, where `tuples` are traversed: the first tuples of each
signature are numbered. -/
def displayName (tuples : List TupleFields) (signature : String) : String :=
  placedName language overrides ((firstTuples tuples).findIdx (tupleSignature · == signature))
    signature

/-- The struct for the tuple at the given place, where `names` gives the display names. -/
def placedStruct (names : String → String) (place : Nat) (fields : TupleFields) :
    StructDescriptor where
  name := placedName language overrides place (tupleSignature fields)
  signature := tupleSignature fields
  fields := structFields language fields (fields.map fun field =>
    language.boundText names field.2)

/-- **Registry of a traversal**: the first tuple of every signature becomes a struct, in the
order of the traversal. -/
def StructRegistry.ofTraversal (tuples : List TupleFields) : StructRegistry :=
  .ofStructs overrides <| (firstTuples tuples).mapIdx
    (placedStruct language overrides (displayName language overrides tuples))

variable {language overrides} {tuples others : List TupleFields}

theorem StructRegistry.structs_ofTraversal :
    (ofTraversal language overrides tuples).structs = (firstTuples tuples).mapIdx
      (placedStruct language overrides (displayName language overrides tuples)) := rfl

theorem StructRegistry.signatures_ofTraversal :
    (ofTraversal language overrides tuples).signatures =
      (firstTuples tuples).map tupleSignature := by
  refine List.ext_getElem? fun place => ?_
  rw [signatures, structs_ofTraversal, List.getElem?_map, List.getElem?_mapIdx, Option.map_map,
    List.getElem?_map]
  rfl

theorem StructRegistry.nodup_signatures_ofTraversal :
    (ofTraversal language overrides tuples).signatures.Nodup :=
  signatures_ofTraversal ▸ nodup_map_firstTuples tuples

/-- Tuples of signatures that have occurred change nothing. -/
theorem StructRegistry.ofTraversal_append_of_seen
    (h : ∀ fields ∈ others, tupleSignature fields ∈ tuples.map tupleSignature) :
    ofTraversal language overrides (tuples ++ others) = ofTraversal language overrides tuples ∧
      displayName language overrides (tuples ++ others) =
        displayName language overrides tuples := by
  have hfirst := firstTuples_append_of_seen h
  have hnames : displayName language overrides (tuples ++ others) =
      displayName language overrides tuples := by
    funext signature
    rw [displayName, displayName, hfirst]
  exact ⟨by rw [ofTraversal, ofTraversal, hfirst, hnames], hnames⟩

/-- The display name of a signature that has occurred stays as it is. -/
theorem displayName_append {signature : String} (h : signature ∈ tuples.map tupleSignature) :
    displayName language overrides (tuples ++ others) signature =
      displayName language overrides tuples signature := by
  obtain ⟨fields, hfields, hsignature⟩ := List.mem_map.mp (mem_map_firstTuples.mpr h)
  have hplace : (firstTuples tuples).findIdx (tupleSignature · == signature) <
      (firstTuples tuples).length :=
    List.findIdx_lt_length_of_exists ⟨fields, hfields, by simpa using hsignature⟩
  rw [displayName, displayName, firstTuples_append, List.findIdx_append, if_pos hplace]

/-- A signature has a struct if it has occurred. -/
theorem StructRegistry.get?_ofTraversal (signature : String) :
    ((ofTraversal language overrides tuples).get? signature).map (·.name) =
      if signature ∈ tuples.map tupleSignature then
        some (displayName language overrides tuples signature)
      else none := by
  split
  · rename_i hseen
    obtain ⟨fields, hfields, hsignature⟩ := List.mem_map.mp (mem_map_firstTuples.mpr hseen)
    have hplace : (firstTuples tuples).findIdx (tupleSignature · == signature) <
        (firstTuples tuples).length :=
      List.findIdx_lt_length_of_exists ⟨fields, hfields, by simpa using hsignature⟩
    have hsame : tupleSignature ((firstTuples tuples)[(firstTuples tuples).findIdx
        (tupleSignature · == signature)]) = signature := by
      simpa using List.findIdx_getElem (w := hplace)
    -- so the struct at this place is the one that is found
    have hnodup : (ofTraversal language overrides tuples).signatures.Nodup :=
      nodup_signatures_ofTraversal
    have hfound := (get?_eq_some_iff hnodup).mpr ⟨List.mem_mapIdx.mpr ⟨_, hplace, rfl⟩, hsame⟩
    rw [hfound, Option.map_some, displayName, placedStruct, hsame]
  · rename_i hunseen
    rw [← mem_map_firstTuples, ← signatures_ofTraversal] at hunseen
    rw [get?_eq_none_iff.mpr hunseen, Option.map_none]

/-- A tuple of a new signature whose inner tuples have occurred adds one struct, whose fields
are bound with the names that there are. -/
theorem StructRegistry.ofTraversal_append_new {fields : TupleFields} (hclosed : ClosedTuples tuples)
    (hinner : fieldTuples fields ⊆ tuples)
    (hnew : tupleSignature fields ∉ tuples.map tupleSignature) :
    ofTraversal language overrides (tuples ++ [fields]) =
      (ofTraversal language overrides tuples).add language.structStem (tupleSignature fields)
        (structFields language fields (fields.map fun field =>
          language.boundText (displayName language overrides tuples) field.2)) := by
  -- the fields of a tuple whose inner tuples have occurred keep their bound types
  have hstable : ∀ other : TupleFields, fieldTuples other ⊆ tuples → ∀ place,
      placedStruct language overrides (displayName language overrides (tuples ++ [fields])) place
          other =
        placedStruct language overrides (displayName language overrides tuples) place other := by
    intro other hother place
    have hbound : ∀ field ∈ other,
        language.boundText (displayName language overrides (tuples ++ [fields])) field.2 =
          language.boundText (displayName language overrides tuples) field.2 := by
      intro field hfield
      refine Language.boundText_congr fun inner hmem => displayName_append ?_
      exact List.mem_map_of_mem (hother (tuples_subset_fieldTuples hfield hmem))
    rw [placedStruct, placedStruct, List.map_congr_left hbound]
  -- which is the case for all tuples of a closed list
  have hold : (firstTuples tuples).mapIdx (placedStruct language overrides
        (displayName language overrides (tuples ++ [fields]))) =
      (firstTuples tuples).mapIdx (placedStruct language overrides
        (displayName language overrides tuples)) := by
    refine List.mapIdx_eq_mapIdx_iff.mpr fun place hplace => hstable _ ?_ place
    exact hclosed _ (firstTuples_subset tuples (List.getElem_mem hplace))
  rw [ofTraversal, ofTraversal, add_ofStructs, firstTuples_append_new hnew, List.mapIdx_concat,
    hold, hstable fields hinner]
  simp only [placedStruct, placedName, nextName, size, ofStructs, List.length_mapIdx]

/-- The name that the struct of a new signature gets is its display name afterwards. -/
theorem StructRegistry.nextName_ofTraversal {fields : TupleFields}
    (hnew : tupleSignature fields ∉ tuples.map tupleSignature) :
    (ofTraversal language overrides tuples).nextName language.structStem (tupleSignature fields) =
      displayName language overrides (tuples ++ [fields]) (tupleSignature fields) := by
  have habsent : ∀ other ∈ firstTuples tuples,
      ¬(tupleSignature other == tupleSignature fields) = true := by
    intro other hother hsame
    refine hnew ?_
    rw [← beq_iff_eq.mp hsame]
    exact List.mem_map_of_mem (firstTuples_subset tuples hother)
  -- so its place is behind all structs that there are
  have hplace : (firstTuples (tuples ++ [fields])).findIdx
      (tupleSignature · == tupleSignature fields) = (firstTuples tuples).length := by
    rw [firstTuples_append_new hnew, List.findIdx_append,
      List.findIdx_eq_length_of_false (by simpa using habsent), if_neg (Nat.lt_irrefl _)]
    simp
  rw [displayName, hplace, placedName, nextName, size, structs_ofTraversal, List.length_mapIdx]
  rfl

end Naming

end ContractBindings
