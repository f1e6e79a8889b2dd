import ContractBindings.Proofs.Struct.Requests

/-!
# Display names and shapes

A display name says as much about a tuple as its shape does, provided that no two structs of the
registry share one (`StructRegistry.checkNames`): two tuples are given the same name if and only
if they are equal up to the names of their fields (`name_eq_iff_shape_eq`). Custom names may be
among the display names, and other requests may have failed in between.
-/

namespace ContractBindings

namespace StructRegistry

variable {language : Language} {registry : StructRegistry}

/-- The search for a clash finds none if and only if the names differ, from each other and from
those before them. -/
theorem firstClash?_eq_none_iff (earlier structs : List StructDescriptor) :
    firstClash? earlier structs = none ↔
      (structs.map (·.name)).Nodup ∧
        ∀ struct ∈ structs, ∀ other ∈ earlier, other.name ≠ struct.name := by
  induction structs generalizing earlier with
  | nil => simp [firstClash?]
  | cons struct rest ih =>
    rw [firstClash?, List.map_cons, List.nodup_cons, List.forall_mem_cons]
    cases hfound : earlier.find? (·.name == struct.name) with
    | some first =>
      have hsame : first.name = struct.name := by simpa using List.find?_some hfound
      refine iff_of_false (by simp) fun ⟨_, hother, _⟩ => ?_
      exact hother first (List.mem_of_find?_eq_some hfound) hsame
    | none =>
      have hother : ∀ other ∈ earlier, other.name ≠ struct.name := by simpa using hfound
      simp only [ih, List.forall_mem_cons, List.mem_map, not_exists, not_and]
      constructor
      · rintro ⟨hnodup, hrest⟩
        exact ⟨⟨fun other hmem hsame => (hrest other hmem).1 hsame.symm, hnodup⟩, hother,
          fun other hmem => (hrest other hmem).2⟩
      · rintro ⟨⟨hnew, hnodup⟩, -, hrest⟩
        exact ⟨hnodup, fun other hmem => ⟨fun hsame => hnew other hmem hsame.symm,
          hrest other hmem⟩⟩

/-- **First clash** of display names: `second` is the first of some structs that has the name of one
before it, and `first` is that one. -/
def IsFirstClash (structs : List StructDescriptor) (first second : StructDescriptor) : Prop :=
  ∃ before after, structs = before ++ second :: after ∧ (before.map (·.name)).Nodup ∧
    first ∈ before ∧ first.name = second.name

/-- What the search finds behind structs whose names differ. -/
theorem firstClash?_eq_some_iff {earlier structs : List StructDescriptor}
    (hearlier : (earlier.map (·.name)).Nodup) {first second : StructDescriptor} :
    firstClash? earlier structs = some (first, second) ↔
      ∃ before after, structs = before ++ second :: after ∧
        ((before.reverse ++ earlier).map (·.name)).Nodup ∧
        first ∈ before.reverse ++ earlier ∧ first.name = second.name := by
  induction structs generalizing earlier with
  | nil => simp [firstClash?]
  | cons struct rest ih =>
    rw [firstClash?]
    have hbehind : ∀ before, (struct :: before).reverse ++ earlier =
        before.reverse ++ struct :: earlier := by simp
    cases hfound : earlier.find? (·.name == struct.name) with
    | some found =>
      have hsame : found.name = struct.name := by simpa using List.find?_some hfound
      have hmem := List.mem_of_find?_eq_some hfound
      constructor
      · intro h
        cases h
        exact ⟨[], rest, rfl, hearlier, hmem, hsame⟩
      · rintro ⟨before, after, hstructs, hnodup, hfirst, hname⟩
        cases before with
        | nil =>
          cases hstructs
          rw [List.inj_on_of_nodup_map hearlier hmem hfirst (hsame.trans hname.symm)]
        | cons _ before =>
          -- then `struct` would be among those whose names differ
          cases hstructs
          rw [List.map_append, List.nodup_append] at hnodup
          have hhead : struct ∈ (struct :: before).reverse := by simp
          exact absurd hsame.symm (hnodup.2.2 _ (List.mem_map_of_mem hhead) _
            (List.mem_map_of_mem hmem))
    | none =>
      have hnew : struct.name ∉ earlier.map (·.name) := by simpa using hfound
      have hnodup : ((struct :: earlier).map (·.name)).Nodup :=
        List.nodup_cons.mpr ⟨hnew, hearlier⟩
      dsimp only
      rw [ih hnodup]
      constructor
      · rintro ⟨before, after, rfl, hnodup, hfirst, hname⟩
        rw [← hbehind] at hnodup hfirst
        exact ⟨struct :: before, after, rfl, hnodup, hfirst, hname⟩
      · rintro ⟨before, after, hstructs, hnodup, hfirst, hname⟩
        cases before with
        | nil =>
          cases hstructs
          exact absurd (List.mem_map.mpr ⟨first, hfirst, hname⟩) hnew
        | cons _ before =>
          cases hstructs
          rw [hbehind] at hnodup hfirst
          exact ⟨before, after, rfl, hnodup, hfirst, hname⟩

/-- The check of the display names passes if and only if they differ. -/
theorem checkNames_eq_ok_iff :
    registry.checkNames = .ok () ↔ (registry.structs.map (·.name)).Nodup := by
  have hclash := firstClash?_eq_none_iff [] registry.structs
  rw [checkNames, ← and_iff_left (a := (registry.structs.map (·.name)).Nodup)
    fun _ _ _ hmem => absurd hmem List.not_mem_nil, ← hclash]
  cases firstClash? [] registry.structs with
  | none => simp
  | some clash => simp

/-- The check of the display names reports the first clash. -/
theorem checkNames_eq_error_iff {fault : BindError} :
    registry.checkNames = .error fault ↔
      ∃ first second, IsFirstClash registry.structs first second ∧
        fault = .duplicateStruct second.name first.signature second.signature := by
  have hclash : ∀ first second, firstClash? [] registry.structs = some (first, second) ↔
      IsFirstClash registry.structs first second := by
    intro first second
    have hnil : (([] : List StructDescriptor).map (·.name)).Nodup := List.nodup_nil
    rw [firstClash?_eq_some_iff hnil, IsFirstClash]
    simp only [List.append_nil, List.map_reverse, List.nodup_reverse, List.mem_reverse]
  rw [checkNames]
  cases hfound : firstClash? [] registry.structs with
  | none =>
    refine iff_of_false (fun h => nomatch h) fun ⟨first, second, h, _⟩ => ?_
    rw [(hclash first second).mpr h] at hfound
    cases hfound
  | some clash =>
    obtain ⟨first, second⟩ := clash
    constructor
    · intro h
      cases h
      exact ⟨first, second, (hclash first second).mp hfound, rfl⟩
    · rintro ⟨earlier, struct, h, rfl⟩
      rw [(hclash earlier struct).mpr h] at hfound
      cases hfound
      rfl

/-- Where the display names differ, they tell the signatures apart. -/
theorem boundType?_tuple_eq_iff (hnames : registry.checkNames = .ok ())
    {fields others : TupleFields} {first second : String}
    (hfirst : registry.boundType? language (.tuple fields) = some first)
    (hsecond : registry.boundType? language (.tuple others) = some second) :
    first = second ↔ tupleSignature fields = tupleSignature others := by
  obtain ⟨struct, hstruct, rfl⟩ := Option.map_eq_some_iff.mp hfirst
  obtain ⟨other, hother, rfl⟩ := Option.map_eq_some_iff.mp hsecond
  obtain ⟨hmem, hsignature⟩ := of_get?_eq_some hstruct
  obtain ⟨hmemOther, hsignatureOther⟩ := of_get?_eq_some hother
  constructor
  · intro hname
    have hsame := List.inj_on_of_nodup_map (checkNames_eq_ok_iff.mp hnames) hmem hmemOther hname
    rw [← hsignature, hsame, hsignatureOther]
  · intro hsame
    rw [hsame] at hstruct
    rw [Option.some.inj (hstruct.symm.trans hother)]

/-- **Display names are shapes**: two tuples are given the same name if and only if they have the
same shape. Their signatures, which the registry compares instead, agree in just this case. -/
theorem name_eq_iff_shape_eq {overrides : TextMap String} {requests : List RegistryRequest}
    {outcomes : List (Except BindError String)} {fields others : TupleFields}
    {first second : String}
    (hserve : (withOverrides overrides).serve language requests = (outcomes, registry))
    (hnames : registry.checkNames = .ok ())
    (hfirst : (.resolve (.tuple fields), .ok first) ∈ requests.zip outcomes)
    (hsecond : (.resolve (.tuple others), .ok second) ∈ requests.zip outcomes) :
    (first = second ↔ (AbiType.tuple fields).shape = (AbiType.tuple others).shape) ∧
      (tupleSignature fields = tupleSignature others ↔
        (AbiType.tuple fields).shape = (AbiType.tuple others).shape) := by
  have hknown : registry.boundType? language (.tuple fields) = some first :=
    answer?_of_serve hserve hfirst
  have hshape : tupleSignature fields = tupleSignature others ↔
      (AbiType.tuple fields).shape = (AbiType.tuple others).shape := AbiType.signature_eq_iff
  exact ⟨(boundType?_tuple_eq_iff hnames hknown (answer?_of_serve hserve hsecond)).trans hshape,
    hshape⟩

/-- The tuple of one field with the given name and type. -/
private def singleField (name : String) (kind : Elementary) : AbiType :=
  .tuple [(name, .elementary kind)]

/-- Requests for the structs of three such tuples. -/
private def singleFieldRequests : List RegistryRequest :=
  [.resolve (singleField "open" .bool), .resolve (singleField "count" (.uint 8)),
    .resolve (singleField "paused" .bool)]

/-- The names for them, where a tuple of one truth value has a custom name. -/
private def singleFieldOutcomes : List (Except BindError String) :=
  [.ok "Flag", .ok "Struct1", .ok "Flag"]

/-- Two tuples that differ in the name of a field have the same name, and a third tuple has
another. -/
theorem name_eq_iff_shape_eq_singleField :
    ∃ registry, (withOverrides (.ofList [("(bool)", "Flag")])).serve .golang
        singleFieldRequests = (singleFieldOutcomes, registry) ∧
      registry.checkNames = .ok () ∧
      (singleField "open" .bool).shape = (singleField "paused" .bool).shape ∧
      (singleField "open" .bool).shape ≠ (singleField "count" (.uint 8)).shape := by
  have hopen : (.resolve (singleField "open" .bool), .ok "Flag") ∈
      singleFieldRequests.zip singleFieldOutcomes := .head _
  have hcount : (.resolve (singleField "count" (.uint 8)), .ok "Struct1") ∈
      singleFieldRequests.zip singleFieldOutcomes := .tail _ (.head _)
  have hpaused : (.resolve (singleField "paused" .bool), .ok "Flag") ∈
      singleFieldRequests.zip singleFieldOutcomes := .tail _ (.tail _ (.head _))
  have hserve : (withOverrides (.ofList [("(bool)", "Flag")])).serve .golang
      singleFieldRequests = (singleFieldOutcomes, _) := rfl
  refine ⟨_, hserve, rfl, (name_eq_iff_shape_eq hserve rfl hopen hpaused).1.mp rfl,
    fun hshape => ?_⟩
  have hname := (name_eq_iff_shape_eq hserve rfl hopen hcount).1.mpr hshape
  exact absurd hname (by decide)

end StructRegistry

end ContractBindings
