import ContractBindings.Proofs.Struct.Invariant

/-!
# Requests to a registry

A registry serves requests of four kinds, each of which may fail (`RegistryRequest`). It serves
them one after the other, whether or not those before have failed (`StructRegistry.serve`).

* `sound_serve` — whatever was requested, the registry is sound, a struct is found under its
  signature, and the next request only adds structs behind the others;
* `answer?_of_serve` — a text that was given for a type is the one that the registry knows at the
  end.
-/

namespace ContractBindings

/-- **Request** to a registry. -/
inductive RegistryRequest where
  /-- The struct for a type that has to be a tuple. -/
  | resolve (type : AbiType)
  /-- The bound type of a type. -/
  | map (type : AbiType)
  /-- The bound type of an indexed event parameter. -/
  | mapTopic (type : AbiType)
  /-- The bound type of a type that has to be a tuple, in a language with records. -/
  | resolveTuple (type : AbiType)

namespace RegistryRequest

variable (language : Language)

/-- The type that is requested. -/
def type : RegistryRequest → AbiType
  | resolve type | map type | mapTopic type | resolveTuple type => type

/-- Serves a request. -/
def run : RegistryRequest → Resolve String
  | resolve type => resolveStruct language type
  | map type => mapType language type
  | mapTopic type => mapTopicType language type
  | resolveTuple type => ContractBindings.resolveTuple language type

/-- The answer to a request as far as a registry knows it. -/
def answer? (registry : StructRegistry) : RegistryRequest → Option String
  | mapTopic type => registry.topicType? language type
  | resolve type | map type | resolveTuple type => registry.boundType? language type

/-- Serving a request adds structs for none but the tuples inside its type, and the answer is known
from then on. -/
theorem grows_run (request : RegistryRequest) :
    Grows language (request.run language) request.type.tuples fun registry text =>
      request.answer? language registry = some text := by
  cases request with
  | resolve type => exact grows_resolveStruct language type
  | map type => exact grows_mapType language type
  | mapTopic type => exact grows_mapTopicType language type
  | resolveTuple type => exact grows_resolveTuple language type

end RegistryRequest

/-- **A failure registers nothing** for the tuple itself: its struct would come after those of the
tuples inside it, which may stay behind. -/
theorem notMem_signatures_of_resolveStruct {language : Language} {fields : TupleFields}
    {before after : StructRegistry} {error : BindError}
    (h : (resolveStruct language (.tuple fields)).outcome before = (.error error, after)) :
    tupleSignature fields ∉ after.signatures := by
  rw [resolveStruct] at h
  rcases intern_cases before with
    ⟨_, -, hrun⟩ | ⟨hnew, ⟨_, middle, hall, hrun⟩ | ⟨_, _, -, hrun⟩⟩
  · cases (Prod.mk.inj (hrun.symm.trans h)).1
  · obtain ⟨-, rfl⟩ := Prod.mk.inj (hrun.symm.trans h)
    have hfresh := notMem_signatures_of_mapAll hnew
      ((grows_allFields language fields).registry before)
    rwa [hall] at hfresh
  · cases (Prod.mk.inj (hrun.symm.trans h)).1

namespace StructRegistry

variable {language : Language} {registry : StructRegistry} {requests : List RegistryRequest}

/-- **Serves requests** one after the other, with the outcome of each and the registry at the end.
A request that fails does not stop those behind it. -/
def serve (language : Language) (registry : StructRegistry) :
    List RegistryRequest → List (Except BindError String) × StructRegistry
  | [] => ([], registry)
  | request :: rest =>
    let first := (request.run language).outcome registry
    let others := first.2.serve language rest
    (first.1 :: others.1, others.2)

theorem growsBy_serve (language : Language) (registry : StructRegistry)
    (requests : List RegistryRequest) :
    registry.GrowsBy language (requests.flatMap (·.type.tuples))
      (registry.serve language requests).2 := by
  induction requests generalizing registry with
  | nil => exact .refl registry
  | cons request rest ih =>
    have hfirst := (request.grows_run language).registry registry
    rw [List.flatMap_cons]
    exact (hfirst.mono (List.subset_append_left _ _)).trans
      ((ih _).mono (List.subset_append_right _ _))

/-- An answer is still known when all requests have been served. -/
theorem answer?_of_serve {outcomes : List (Except BindError String)} {after : StructRegistry}
    {request : RegistryRequest} {text : String}
    (hserve : registry.serve language requests = (outcomes, after))
    (h : (request, .ok text) ∈ requests.zip outcomes) :
    request.answer? language after = some text := by
  induction requests generalizing registry outcomes with
  | nil => exact absurd h List.not_mem_nil
  | cons first rest ih =>
    obtain ⟨rfl, hrest⟩ := Prod.mk.inj hserve
    rcases List.mem_cons.mp h with hfirst | hothers
    · obtain ⟨rfl, htext⟩ := Prod.mk.inj hfirst
      have hrun : (request.run language).Yields registry text
          ((request.run language).outcome registry).2 := Prod.ext htext.symm rfl
      have hgrowth := growsBy_serve language ((request.run language).outcome registry).2 rest
      rw [hrest] at hgrowth
      exact (request.grows_run language).result hrun hgrowth.toExtends
    · exact ih (Prod.ext rfl hrest) hothers

/-- **Serving requests keeps a registry sound.** Structs are found under their signatures, and the
index has no other keys. Serving one more request changes no struct that is there, and no entry of
the index; and if the struct for a tuple was requested without success, the tuple has none. -/
theorem sound_serve {overrides : TextMap String} {outcomes : List (Except BindError String)}
    (hserve : (withOverrides overrides).serve language requests = (outcomes, registry)) :
    registry.overrides = overrides ∧ registry.Sound language ∧
      (∀ signature struct, registry.get? signature = some struct ↔
        struct ∈ registry.structs ∧ struct.signature = signature) ∧
      (∀ signature, signature ∈ registry.index.keys ↔ signature ∈ registry.signatures) ∧
      ∀ (request : RegistryRequest) {outcome : Except BindError String} {after : StructRegistry},
        (request.run language).outcome registry = (outcome, after) →
        registry.Extends after ∧
          ∀ {fields error}, request = .resolve (.tuple fields) → outcome = .error error →
            tupleSignature fields ∉ after.signatures := by
  have hgrowth := growsBy_serve language (withOverrides overrides) requests
  rw [hserve] at hgrowth
  have hsound := (sound_withOverrides language overrides).growsBy hgrowth
  refine ⟨hgrowth.toExtends.overrides, hsound, fun _ _ => get?_eq_some_iff hsound.distinct,
    fun _ => mem_keys_index_iff, ?_⟩
  intro request outcome after hrun
  have hnext := (request.grows_run language).registry registry
  rw [hrun] at hnext
  refine ⟨hnext.toExtends, ?_⟩
  rintro fields error rfl rfl
  exact notMem_signatures_of_resolveStruct hrun

/-- A tuple that cannot be mapped, with a tuple inside it that can. -/
def halfMapped : TupleFields :=
  [("inner", .tuple [("flag", .elementary .bool)]), ("width", .elementary (.uint 7))]

/-- The tuple inside `halfMapped` keeps its struct, which has a custom name and counts. -/
theorem sound_serve_halfMapped :
    ∃ registry outcomes error after,
      (withOverrides (.ofList [("(bool)", "Flag")])).serve .golang
        [.resolve (.tuple halfMapped), .map (.tuple [("count", .elementary (.uint 8))])] =
          (outcomes, registry) ∧
      registry.structs.map (·.name) = ["Flag", "Struct1"] ∧
      registry.index.entries = [("(bool)", 0), ("(uint8)", 1)] ∧
      (registry.get? "(uint8)").map (·.name) = some "Struct1" ∧ registry.Sound .golang ∧
      (RegistryRequest.run .golang (.resolve (.tuple halfMapped))).outcome registry =
        (.error error, after) ∧
      registry.Extends after ∧ tupleSignature halfMapped ∉ after.signatures := by
  have hserve : (withOverrides (.ofList [("(bool)", "Flag")])).serve .golang
      [.resolve (.tuple halfMapped), .map (.tuple [("count", .elementary (.uint 8))])] =
        (_, _) := rfl
  obtain ⟨-, hsound, -, -, hnext⟩ := sound_serve hserve
  obtain ⟨hextends, hfails⟩ :=
    hnext (.resolve (.tuple halfMapped)) (rfl : _ = (Except.error _, _))
  exact ⟨_, _, _, _, hserve, by decide +kernel, by decide +kernel, by decide +kernel, hsound, rfl,
    hextends, hfails rfl rfl⟩

end StructRegistry

end ContractBindings
