import ContractBindings.Proofs.Struct.FieldNames
import ContractBindings.Proofs.Struct.Requests

/-!
# Stable answers

A computation **repeats** (`Repeats`) if, once it has given a result, it gives the same one in every
later registry and changes nothing there. All requests do (`RegistryRequest.repeats_run`): the first
run registers what the second one looks up, at the outermost tuples already.

With field names erased, a request is in step with every other of its shape. Therefore a text that
was given once is given again to all of them, whatever has been requested in the meantime
(`outcome_again_of_serve`).
-/

namespace ContractBindings

/-! ### Computations that repeat -/

/-- Computation that **repeats**: a result of it is given in every later registry as well, which
stays as it is. -/
def Repeats {α : Type} (x : Resolve α) : Prop :=
  ∀ before after later a, x.Yields before a after → after.Extends later → x.Yields later a later

namespace Repeats

variable {α β : Type}

protected theorem throw (fault : BindError) : Repeats (throw fault : Resolve α) :=
  fun _ _ _ _ hrun _ => absurd hrun Resolve.not_yields_throw

/-- Rewriting the result repeats. -/
protected theorem map {x : Resolve α} (hx : Repeats x) (f : α → β) :
    Repeats (x >>= fun a => pure (f a)) := by
  intro before after later b hrun hlater
  obtain ⟨a, middle, hfirst, hpure⟩ := Resolve.yields_bind.mp hrun
  obtain ⟨hresult, rfl⟩ := Resolve.yields_pure.mp hpure
  exact Resolve.yields_bind.mpr
    ⟨a, later, hx _ _ _ _ hfirst hlater, Resolve.yields_pure.mpr ⟨hresult, rfl⟩⟩

end Repeats

section Types

variable (language : Language)

/-- The struct for a tuple is there from the first time on. -/
theorem repeats_intern (fields : TupleFields) :
    Repeats (intern language fields (mapFields language fields)) := by
  intro before after later name hrun hlater
  have hknown := (grows_intern (grows_allFields language fields)).result hrun hlater
  obtain ⟨struct, hfound, hname⟩ := Option.map_eq_some_iff.mp hknown
  rcases intern_cases later with ⟨other, hother, hagain⟩ | ⟨hnew, -⟩
  · rw [hfound] at hother
    rw [Resolve.Yields, hagain, ← hname, Option.some.inj hother]
  · rw [hfound] at hnew
    cases hnew

/-- **Mapping a type** repeats. -/
theorem repeats_mapType (type : AbiType) : Repeats (mapType language type) := by
  induction type using AbiType.induct with
  | elementary kind =>
    intro before after later bound hrun hlater
    rw [mapType] at hrun ⊢
    have hresult : language.elementaryType kind = .ok bound := congrArg Prod.fst hrun
    rw [hresult]
    rfl
  | array element size ih =>
    rw [mapType]
    exact ih.map (language.arrayType · size)
  | slice element ih =>
    rw [mapType]
    exact ih.map language.sliceType
  | tuple fields ih =>
    rw [mapType]
    split
    · exact repeats_intern language fields
    · exact .throw _

theorem repeats_resolveStruct (type : AbiType) : Repeats (resolveStruct language type) := by
  cases type with
  | tuple fields => exact repeats_intern language fields
  | elementary _ | array _ _ | slice _ => exact .throw _

theorem RegistryRequest.repeats_run (request : RegistryRequest) :
    Repeats (request.run language) := by
  cases request with
  | resolve type => exact repeats_resolveStruct language type
  | map type => exact repeats_mapType language type
  | mapTopic type =>
    exact (repeats_mapType language type).map fun bound =>
      if type.isHashedTopic then language.hashType else bound
  | resolveTuple type =>
    rw [run, ContractBindings.resolveTuple]
    split
    · exact repeats_resolveStruct language type
    · exact .throw _

end Types

/-! ### Requests of one shape -/

/-- An extension that is the same up to field names adds nothing. -/
theorem StructRegistry.Extends.eq_of_erased {before after : StructRegistry}
    (h : before.Extends after) (herased : after.erased = before.erased) : after = before := by
  obtain ⟨-, hstructs, hindex⟩ := StructRegistry.ext_iff.mp herased
  have hlength : after.structs.length = before.structs.length := by
    simpa [erased] using congrArg List.length hstructs
  have hsame := h.structs.eq_of_length hlength.symm
  exact StructRegistry.ext h.overrides hsame.symm hindex

namespace RegistryRequest

/-- A request without the field names inside its type. -/
def shape : RegistryRequest → RegistryRequest
  | resolve type => resolve type.shape
  | map type => map type.shape
  | mapTopic type => mapTopic type.shape
  | resolveTuple type => resolveTuple type.shape

/-- Serving a request is in step with serving its shape. -/
theorem inStep_run (language : Language) (request : RegistryRequest) :
    InStep (request.run language) (request.shape.run language) Eq := by
  cases request with
  | resolve type => exact inStep_resolveStruct type
  | map type => exact inStep_mapType type
  | mapTopic type => exact inStep_mapTopicType type
  | resolveTuple type => exact inStep_resolveTuple type

/-- Where a request changes nothing, all requests of its shape give what it gives and change
nothing. -/
theorem yields_of_shape_eq {language : Language} {request again : RegistryRequest} {text : String}
    {registry : StructRegistry} (h : (request.run language).Yields registry text registry)
    (hshape : again.shape = request.shape) :
    (again.run language).Yields registry text registry := by
  have hstep : InStep (again.run language) (request.run language) Eq :=
    (again.inStep_run language).of_common (hshape ▸ request.inStep_run language)
      fun _ _ _ hfirst hsecond => hfirst.trans hsecond.symm
  have halike := hstep registry registry rfl
  have hgrowth := ((again.grows_run language).registry registry).toExtends
  rw [h] at halike
  generalize hrun : (again.run language).outcome registry = outcome at halike hgrowth
  cases halike with
  | @ok _ _ after _ hsame herased =>
    have hunchanged : after = registry := hgrowth.eq_of_erased herased
    rw [Resolve.Yields, hrun, hsame, hunchanged]

end RegistryRequest

namespace StructRegistry

/-- **Answers are stable**: a text that a registry in whatever state has given for a type is given
again, however many requests have been served or refused in the meantime. The type may be another
one that differs in field names only. Asking again changes nothing. -/
theorem outcome_again_of_serve {language : Language} {request again : RegistryRequest}
    {text : String} {before after later : StructRegistry} {requests : List RegistryRequest}
    {outcomes : List (Except BindError String)}
    (hrun : (request.run language).outcome before = (.ok text, after))
    (hserve : after.serve language requests = (outcomes, later))
    (hshape : again.shape = request.shape) :
    (again.run language).outcome later = (.ok text, later) := by
  have hgrowth := growsBy_serve language after requests
  rw [hserve] at hgrowth
  have hrepeated := request.repeats_run language _ _ _ _ hrun hgrowth.toExtends
  exact RegistryRequest.yields_of_shape_eq hrepeated hshape

/-- A list of pairs with a tuple inside them, in which two fields have the given names. -/
def namedPairs (outer inner : String) : AbiType :=
  .slice (.tuple [(outer, .tuple [(inner, .elementary .string)]), ("", .elementary .address)])

/-- Requests of which the first two are refused: a tuple that cannot be mapped, which registers the
one inside it, and a type that is no tuple. -/
def requestsBetween : List RegistryRequest :=
  [.resolve (.tuple halfMapped), .resolve (.elementary .bool),
    .mapTopic (.tuple [("", .elementary .bytes)])]

/-- Two structs are registered in the meantime, and the fields change their names. -/
theorem outcome_again_of_serve_namedPairs :
    ∃ after outcomes later,
      ((RegistryRequest.map (namedPairs "from" "to")).run .golang).outcome empty =
        (.ok "[]Struct1", after) ∧
      after.serve .golang requestsBetween = (outcomes, later) ∧
      later.structs.map (·.signature) = ["(string)", "((string),address)", "(bool)", "(bytes)"] ∧
      ((RegistryRequest.map (namedPairs "" "from")).run .golang).outcome later =
        (.ok "[]Struct1", later) := by
  have hsignatures : ((((RegistryRequest.map (namedPairs "from" "to")).run .golang).outcome
      empty).2.serve .golang requestsBetween).2.structs.map (·.signature) =
        ["(string)", "((string),address)", "(bool)", "(bytes)"] := by
    decide +kernel
  obtain ⟨after, hrun⟩ : ∃ after,
      ((RegistryRequest.map (namedPairs "from" "to")).run .golang).outcome empty =
        (.ok "[]Struct1", after) := ⟨_, rfl⟩
  rw [hrun] at hsignatures
  obtain ⟨outcomes, later, hserve⟩ : ∃ outcomes later,
      after.serve .golang requestsBetween = (outcomes, later) := ⟨_, _, rfl⟩
  rw [hserve] at hsignatures
  exact ⟨after, outcomes, later, hrun, hserve, hsignatures, outcome_again_of_serve hrun hserve rfl⟩

end StructRegistry

end ContractBindings
