import ContractBindings.Binding.Binder
import ContractBindings.Proofs.Binding.Entries

/-!
# Looking up methods and events by signature

A model has one index for the signatures of its methods and events, in which an event takes the
place of a method with its signature, while the keys of methods and of events are claimed apart
from each other.

* `findsMethod_iff` — the look-up of a method may follow the key of an event to another method, or
  to none; this says for which signatures it does;
* `findsEvent_of_bind` — the look-up of an event is correct for all signatures.
-/

namespace ContractBindings

/-! ### Bound models -/

namespace Binder

variable {binder : Binder} {name : String} {deployment : Deployment} {model : ContractModel}

theorem assemble_eq_ok_iff {result : Classification} {structs : StructRegistry} :
    binder.assemble name deployment result structs = .ok model ↔
      structs.checkNames = .ok () ∧ model = {
        name := name
        language := binder.config.language
        platform := binder.config.platform
        inputAbi := stripAbi deployment.rawAbi
        classification := result.declared structs
        structs := structs
        imports := mergeImports
          [binder.config.platform.imports, (binder.config.customsFor name).imports]
        deployment := deployment.info? } := by
  rw [assemble, except_bind_eq_ok_iff]
  exact ⟨fun ⟨_, hnames, h⟩ => ⟨hnames, (Except.ok.inj h).symm⟩,
    fun ⟨hnames, h⟩ => ⟨(), hnames, congrArg Except.ok h.symm⟩⟩

/-- A model is made of the classification of its ABI. -/
theorem bind_eq_ok_iff :
    binder.bind name deployment = .ok model ↔
      ∃ abi result structs, deployment.parseAbi = .ok abi ∧
        (classify binder.config.language (binder.config.customsFor name) abi).run
          (.withOverrides (binder.config.customsFor name).structs) = (.ok result, structs) ∧
        binder.assemble name deployment result structs = .ok model := by
  rw [Binder.bind, except_bind_eq_ok_iff]
  refine exists_congr fun abi => ?_
  dsimp only
  split
  rename_i result structs hrun
  rw [except_bind_eq_ok_iff]
  constructor
  · rintro ⟨habi, result, rfl, h⟩
    exact ⟨result, structs, habi, hrun, h⟩
  · rintro ⟨_, _, habi, hrun', h⟩
    obtain ⟨rfl, rfl⟩ := Prod.mk.inj (hrun.symm.trans hrun')
    exact ⟨habi, _, rfl, h⟩

end Binder

/-! ### The keys of a signature -/

namespace ContractAbi

variable (language : Language) (customs : Customs) (abi : ContractAbi)

/-- The key of the last bound function with the given signature. -/
def functionKey? (signature : String) : Option String :=
  ((withKeys language AbiFunction.name (abi.boundFunctions customs)).map fun (key, f) =>
    (f.signature, key)).reverse.lookup signature

/-- The key of the last bound event with the given signature. -/
def eventKey? (signature : String) : Option String :=
  ((withKeys language AbiEvent.name abi.boundEvents).map fun (key, e) =>
    (e.signature, key)).reverse.lookup signature

/-- The bound function with the given key. -/
def functionUnder? (key : String) : Option AbiFunction :=
  (withKeys language AbiFunction.name (abi.boundFunctions customs)).lookup key

variable {language customs abi}

theorem distinct_withKeys : (withKeys language AbiFunction.name
    (abi.boundFunctions customs)).Pairwise fun a b => a.1 ≠ b.1 :=
  List.pairwise_map.mp (nodup_map_fst_withKeys language AbiFunction.name _)

/-- The key of a signature leads to a function with that signature. -/
theorem functionUnder?_of_functionKey? {signature key : String}
    (h : abi.functionKey? language customs signature = some key) :
    ∃ f, abi.functionUnder? language customs key = some f ∧ f.signature = signature := by
  obtain ⟨⟨_, f⟩, hentry, heq⟩ :=
    List.mem_map.mp (List.mem_reverse.mp (TextMap.mem_of_lookup h))
  obtain ⟨rfl, rfl⟩ := Prod.mk.inj heq
  exact ⟨f, (TextMap.lookup_eq_some_iff distinct_withKeys).mpr hentry, rfl⟩

theorem functionKey?_eq_none_iff {signature : String} :
    abi.functionKey? language customs signature = none ↔
      ∀ f ∈ abi.boundFunctions customs, f.signature ≠ signature := by
  rw [functionKey?, List.lookup_eq_none_iff]
  constructor
  · intro h f hf hsignature
    rw [← map_snd_withKeys language AbiFunction.name (abi.boundFunctions customs)] at hf
    obtain ⟨entry, hentry, rfl⟩ := List.mem_map.mp hf
    have hne := h _ (List.mem_reverse.mpr (List.mem_map_of_mem hentry))
    exact absurd hsignature.symm (by simpa using hne)
  · intro h pair hpair
    obtain ⟨entry, hentry, rfl⟩ := List.mem_map.mp (List.mem_reverse.mp hpair)
    have hf : entry.2 ∈ abi.boundFunctions customs := by
      rw [← map_snd_withKeys language AbiFunction.name (abi.boundFunctions customs)]
      exact List.mem_map_of_mem hentry
    exact bne_iff_ne.mpr (h _ hf).symm

end ContractAbi

/-! ### Finding methods -/

/-- **Correct** look-up of a method: what is found has the signature that was asked for, and
something is found if there is a method with that signature. -/
def ContractModel.FindsMethod (model : ContractModel) (signature : String) : Prop :=
  (∀ method, model.methodBySignature? signature = some method →
    method.function.signature = signature) ∧
  ∀ entry : model.classification.MethodEntry, entry.method.function.signature = signature →
    ∃ method, model.methodBySignature? signature = some method ∧
      method.function.signature = signature

/-- Looking up in a part of some pairs with different keys. -/
theorem TextMap.get?_ofList_filter {α : Type} {pairs : List (String × α)}
    (h : pairs.Pairwise fun a b => a.1 ≠ b.1) (p : String × α → Bool) (key : String) :
    (TextMap.ofList (pairs.filter p)).get? key =
      (pairs.lookup key).filter fun value => p (key, value) := by
  refine Option.ext fun value => ?_
  rw [get?_ofList_of_distinct (h.filter p), List.mem_filter, ← lookup_eq_some_iff h,
    Option.filter_eq_some_iff]

section Found

variable {methods : List (String × BoundMethod)} {events : List (String × BoundEvent)}
  {constructor : Option BoundMethod}

/-- A key leads to the method that was bound under it, in either map. -/
theorem Classification.get?_calls_or_transacts (h : methods.Pairwise fun a b => a.1 ≠ b.1)
    (key : String) :
    ((ofBound methods events constructor).calls.get? key <|>
      (ofBound methods events constructor).transacts.get? key) = methods.lookup key := by
  rw [ofBound, TextMap.get?_ofList_filter h, TextMap.get?_ofList_filter h]
  cases methods.lookup key with
  | none => rfl
  | some method => cases hconstant : method.function.isConstant <;> simp [hconstant]

theorem Classification.get?_signatures (signature : String) :
    (ofBound methods events constructor).signatures.get? signature =
      ((events.map fun (key, event) => (event.event.signature, key)).reverse.lookup signature).or
        ((methods.map fun (key, method) => (method.function.signature, key)).reverse.lookup
          signature) := by
  rw [ofBound, TextMap.get?_ofList, List.reverse_append, List.lookup_append]

end Found

section Model

variable {binder : Binder} {name : String} {deployment : Deployment} {abi : ContractAbi}
  {model : ContractModel}

/-- What a model knows about its methods and events. -/
theorem exists_of_bind (habi : deployment.parseAbi = .ok abi)
    (h : binder.bind name deployment = .ok model) :
    ∃ methods events constructor,
      model.classification = .ofBound methods events constructor ∧
      methods.map (fun entry => (entry.1, entry.2.function)) =
        withKeys binder.config.language AbiFunction.name
          (abi.boundFunctions (binder.config.customsFor name)) ∧
      events.map (fun entry => (entry.1, entry.2.event)) =
        withKeys binder.config.language AbiEvent.name abi.boundEvents := by
  obtain ⟨parsed, result, structs, hparsed, hrun, hassemble⟩ := Binder.bind_eq_ok_iff.mp h
  obtain rfl := Except.ok.inj (habi.symm.trans hparsed)
  obtain ⟨-, rfl⟩ := Binder.assemble_eq_ok_iff.mp hassemble
  obtain ⟨methods, events, constructor, rfl, hmethods, hevents⟩ := exists_of_yields_classify hrun
  -- a declaration changes neither the function nor the event
  refine ⟨_, _, _, Classification.declared_ofBound structs methods events constructor, ?_, ?_⟩
  · rw [List.map_map, ← hmethods]
    rfl
  · rw [List.map_map, ← hevents]
    rfl

/-- The function of the method that is found for a signature: an event with that signature comes
before the functions. -/
theorem function_methodBySignature? (habi : deployment.parseAbi = .ok abi)
    (h : binder.bind name deployment = .ok model) (signature : String) :
    (model.methodBySignature? signature).map (·.function) =
      ((abi.eventKey? binder.config.language signature).or (abi.functionKey?
        binder.config.language (binder.config.customsFor name) signature)).bind
        (abi.functionUnder? binder.config.language (binder.config.customsFor name)) := by
  obtain ⟨methods, events, constructor, hmodel, hmethods, hevents⟩ := exists_of_bind habi h
  obtain ⟨hkeys, -⟩ := of_map_eq_withKeys hmethods
  have hfound : model.methodBySignature? signature =
      (model.classification.signatures.get? signature).bind fun key => methods.lookup key := by
    rw [ContractModel.methodBySignature?, hmodel]
    exact congrArg _ (funext fun key => Classification.get?_calls_or_transacts hkeys key)
  have hunder : abi.functionUnder? binder.config.language (binder.config.customsFor name) =
      fun key => (methods.lookup key).map (·.function) := by
    funext key
    rw [ContractAbi.functionUnder?, ← hmethods, TextMap.lookup_map fun _ => BoundMethod.function]
  rw [hfound, hmodel, Classification.get?_signatures, Option.map_bind, hunder,
    ContractAbi.eventKey?, ContractAbi.functionKey?, ← hmethods, ← hevents, List.map_map,
    List.map_map]
  rfl

/-- The methods of a model are those of the bound functions. -/
theorem exists_methodEntry_iff (habi : deployment.parseAbi = .ok abi)
    (h : binder.bind name deployment = .ok model) (signature : String) :
    (∃ entry : model.classification.MethodEntry, entry.method.function.signature = signature) ↔
      ∃ f ∈ abi.boundFunctions (binder.config.customsFor name), f.signature = signature := by
  obtain ⟨methods, events, constructor, hmodel, hmethods, -⟩ := exists_of_bind habi h
  obtain ⟨hkeys, hfunctions⟩ := of_map_eq_withKeys hmethods
  obtain ⟨e, he⟩ : ∃ e : _ ≃ (Classification.ofBound methods events constructor).MethodEntry, _ :=
    Classification.exists_equiv_methodEntry hkeys
  rw [hmodel, ← hfunctions]
  constructor
  · rintro ⟨entry, hsignature⟩
    obtain ⟨entry, rfl⟩ := e.surjective entry
    rw [(he entry).1] at hsignature
    exact ⟨_, List.mem_map_of_mem entry.2, hsignature⟩
  · rintro ⟨f, hf, hsignature⟩
    obtain ⟨entry, hentry, rfl⟩ := List.mem_map.mp hf
    exact ⟨e ⟨entry, hentry⟩, (he _).1 ▸ hsignature⟩

/-- **Finding methods**: the look-up for a signature is correct exactly if no event has that
signature, or the key of the last such event belongs to a method with that signature, or there
is neither a method with that key nor one with that signature. -/
theorem findsMethod_iff (habi : deployment.parseAbi = .ok abi)
    (h : binder.bind name deployment = .ok model) (signature : String) :
    model.FindsMethod signature ↔
      ∀ key, abi.eventKey? binder.config.language signature = some key →
        (∃ f, abi.functionUnder? binder.config.language (binder.config.customsFor name) key =
          some f ∧ f.signature = signature) ∨
        (abi.functionUnder? binder.config.language (binder.config.customsFor name) key = none ∧
          ∀ f ∈ abi.boundFunctions (binder.config.customsFor name),
            f.signature ≠ signature) := by
  -- the methods are only looked at through their functions
  have hfunction : model.FindsMethod signature ↔
      (∀ f, (model.methodBySignature? signature).map (·.function) = some f →
        f.signature = signature) ∧
      ((∃ f ∈ abi.boundFunctions (binder.config.customsFor name), f.signature = signature) →
        ∃ f, (model.methodBySignature? signature).map (·.function) = some f ∧
          f.signature = signature) := by
    rw [ContractModel.FindsMethod, ← exists_imp, exists_methodEntry_iff habi h signature]
    cases model.methodBySignature? signature <;> simp
  rw [hfunction, function_methodBySignature? habi h signature]
  cases heventKey : abi.eventKey? binder.config.language signature with
  | none =>
    -- the key is one of a function with the signature, and leads back to it
    refine ⟨fun _ key hkey => absurd hkey (Option.some_ne_none key).symm, fun _ => ?_⟩
    cases hkey : abi.functionKey? binder.config.language (binder.config.customsFor name)
        signature with
    | none =>
      have hnone := ContractAbi.functionKey?_eq_none_iff.mp hkey
      exact ⟨fun f hf => absurd hf (Option.some_ne_none f).symm,
        fun ⟨f, hf, hsignature⟩ => absurd hsignature (hnone f hf)⟩
    | some key =>
      obtain ⟨f, hunder, hsignature⟩ := ContractAbi.functionUnder?_of_functionKey? hkey
      rw [Option.none_or, Option.bind_some, hunder]
      exact ⟨fun other hother => Option.some.inj hother ▸ hsignature,
        fun _ => ⟨f, rfl, hsignature⟩⟩
  | some key =>
    -- the functions of the signature play no part in what is found
    rw [Option.some_or, Option.bind_some]
    cases hunder : abi.functionUnder? binder.config.language (binder.config.customsFor name)
        key with
    | none => simp [hunder]
    | some f => simpa [hunder] using fun hsignature _ _ _ => hsignature

end Model

/-- The entry of a function or event of the name `a` in an ABI. -/
private def entryNamedA (kind : String) (inputs : List String) : Json :=
  .object [("type", .string kind), ("name", .string "a"),
    ("inputs", .array (inputs.map fun type => .object [("type", .string type)]))]

/-- A function `a(uint8)` and an event `a()`: they have the same key. -/
def sameKeys : Deployment :=
  .ofAbi (.array [entryNamedA "function" ["uint8"], entryNamedA "event" []])

/-- The binder for Go without customizations. -/
def plainBinder : Binder := ⟨⟨.golang, .ethereum, .empty⟩, rfl⟩

theorem findsMethod_iff_sameKeys :
    ∃ abi model, sameKeys.parseAbi = .ok abi ∧ plainBinder.bind "C" sameKeys = .ok model ∧
      model.FindsMethod "a(uint8)" := by
  have hevent : sameKeys.parseAbi.toOption.bind
      (ContractAbi.eventKey? .golang · "a(uint8)") = none := by decide +kernel
  have hparses : sameKeys.parseAbi.toOption.isSome = true := by decide +kernel
  have hbinds : (plainBinder.bind "C" sameKeys).toOption.isSome = true := by decide +kernel
  obtain ⟨abi, habi⟩ := Option.isSome_iff_exists.mp hparses
  obtain ⟨model, h⟩ := Option.isSome_iff_exists.mp hbinds
  rw [habi, Option.bind_some] at hevent
  rw [except_toOption_eq_some_iff] at habi h
  refine ⟨abi, model, habi, h, (findsMethod_iff habi h _).mpr fun key hkey => ?_⟩
  exact absurd (hevent.symm.trans hkey) (Option.some_ne_none key).symm

theorem not_findsMethod_sameKeys :
    ∃ model method, plainBinder.bind "C" sameKeys = .ok model ∧
      model.methodBySignature? "a()" = some method ∧ method.function.signature = "a(uint8)" ∧
      ¬model.FindsMethod "a()" := by
  have hmethod : ((plainBinder.bind "C" sameKeys).toOption.bind
      (·.methodBySignature? "a()")).map (·.function.signature) = some "a(uint8)" := by
    decide +kernel
  obtain ⟨method, hmethod, hsignature⟩ := Option.map_eq_some_iff.mp hmethod
  obtain ⟨model, h, hfound⟩ := Option.bind_eq_some_iff.mp hmethod
  refine ⟨model, method, except_toOption_eq_some_iff.mp h, hfound, hsignature, fun hfinds => ?_⟩
  exact absurd (hsignature.symm.trans (hfinds.1 method hfound)) (by decide)

/-! ### Finding events -/

/-- Looking up in pairs that are made from some items finds the first item with the key. -/
private theorem lookup_map_eq_find? {α β : Type} (key : α → String) (value : α → β)
    (items : List α) (query : String) :
    (items.map fun item => (key item, value item)).lookup query =
      (items.find? (key · == query)).map value := by
  induction items with
  | nil => rfl
  | cons item rest ih =>
    rw [List.map_cons, List.lookup_cons, List.find?_cons, ih, Bool.beq_comm]
    cases key item == query <;> rfl

/-- The event that is found for a signature is the last one with that signature: its key is the
one in the index, and where there is none, the key of a method leads to no event with the
signature. -/
theorem ContractModel.eventBySignature?_eq {model : ContractModel}
    {methods : List (String × BoundMethod)} {events : List (String × BoundEvent)}
    {constructor : Option BoundMethod}
    (hmodel : model.classification = .ofBound methods events constructor)
    (hkeys : events.Pairwise fun a b => a.1 ≠ b.1) (signature : String) :
    model.eventBySignature? signature =
      (events.reverse.find? (·.2.event.signature == signature)).map (·.2) := by
  have hget : ∀ key event, (TextMap.ofList events).get? key = some event ↔ (key, event) ∈ events :=
    fun _ _ => TextMap.get?_ofList_of_distinct hkeys
  have hindex : model.eventBySignature? signature =
      (((events.reverse.find? (·.2.event.signature == signature)).map (·.1)).or
        ((methods.map fun (key, method) => (method.function.signature, key)).reverse.lookup
          signature)).bind fun key => ((TextMap.ofList events).get? key).bind fun event =>
            if event.event.signature = signature then some event else none := by
    rw [eventBySignature?, hmodel, Classification.get?_signatures, ← List.map_reverse,
      lookup_map_eq_find?]
    rfl
  rw [hindex]
  cases hfound : events.reverse.find? (·.2.event.signature == signature) with
  | some entry =>
    have hsignature : entry.2.event.signature = signature := by simpa using List.find?_some hfound
    have hentry : (TextMap.ofList events).get? entry.1 = some entry.2 :=
      (hget _ _).mpr (List.mem_reverse.mp (List.mem_of_find?_eq_some hfound))
    simp [hentry, hsignature]
  | none =>
    rw [Option.map_none, Option.none_or, Option.map_none, Option.bind_eq_none_iff]
    intro key _
    rw [Option.bind_eq_none_iff]
    intro event hevent
    have hother := List.find?_eq_none.mp hfound _ (List.mem_reverse.mpr ((hget _ _).mp hevent))
    exact if_neg (by simpa using hother)

/-- **Correct** look-up of an event: what is found is an event of the model with the signature that
was asked for, and something is found if there is one. -/
structure ContractModel.FindsEvent (model : ContractModel) (signature : String) : Prop where
  /-- What is found is bound and has the signature. -/
  sound : ∀ event, model.eventBySignature? signature = some event →
    event ∈ model.classification.events.entries.map (·.2) ∧ event.event.signature = signature
  /-- An event is found under its own signature, or gives way to another one with it. -/
  complete : ∀ event ∈ model.classification.events.entries.map (·.2),
    event.event.signature = signature → ∃ found, model.eventBySignature? signature = some found ∧
      found.event.signature = signature

/-- **Finding events**: the look-up is correct for every signature, and finds something exactly if
the ABI has an event with that signature that is not anonymous. Methods have no influence. -/
theorem findsEvent_of_bind {binder : Binder} {name : String} {deployment : Deployment}
    {abi : ContractAbi} {model : ContractModel} (habi : deployment.parseAbi = .ok abi)
    (h : binder.bind name deployment = .ok model) (signature : String) :
    ((∃ event, model.eventBySignature? signature = some event) ↔
      ∃ e ∈ abi.events, e.anonymous = false ∧ e.signature = signature) ∧
    model.FindsEvent signature := by
  obtain ⟨methods, events, constructor, hmodel, -, hevents⟩ := exists_of_bind habi h
  obtain ⟨hkeys, hbound⟩ := of_map_eq_withKeys hevents
  have hfinds := ContractModel.eventBySignature?_eq hmodel hkeys signature
  have hmem : ∀ event, event ∈ model.classification.events.entries.map (·.2) ↔
      event ∈ events.map (·.2) := fun event => by
    rw [hmodel]
    exact ((TextMap.perm_entries_ofList hkeys).map _).mem_iff
  have hexists : (∃ event, model.eventBySignature? signature = some event) ↔
      ∃ entry ∈ events, entry.2.event.signature = signature := by
    rw [← Option.isSome_iff_exists, hfinds, Option.isSome_map, List.find?_isSome]
    simp only [List.mem_reverse, beq_iff_eq]
  have hsound : ∀ event, model.eventBySignature? signature = some event →
      event ∈ model.classification.events.entries.map (·.2) ∧
        event.event.signature = signature := by
    intro event hevent
    rw [hfinds] at hevent
    obtain ⟨entry, hentry, rfl⟩ := Option.map_eq_some_iff.mp hevent
    refine ⟨(hmem _).mpr (List.mem_map_of_mem ?_), by simpa using List.find?_some hentry⟩
    exact List.mem_reverse.mp (List.mem_of_find?_eq_some hentry)
  refine ⟨hexists.trans ?_, hsound, fun event hevent hsignature => ?_⟩
  · -- the bound events are those of the ABI that are not anonymous
    have hiff := congrArg (fun sources => ∃ e ∈ sources, e.signature = signature) hbound
    simpa [ContractAbi.boundEvents, and_assoc] using hiff
  · obtain ⟨entry, hentry, rfl⟩ := List.mem_map.mp ((hmem event).mp hevent)
    obtain ⟨found, hfound⟩ := hexists.mpr ⟨entry, hentry, hsignature⟩
    exact ⟨found, hfound, (hsound found hfound).2⟩

/-- An event that shares its signature with a function and with an earlier event, and one that
shares its key with a function and is anonymous. -/
def sharedSignatures : Deployment :=
  let entry (kind name : String) : List (String × Json) :=
    [("type", .string kind), ("name", .string name)]
  .ofAbi (.array [.object (entry "function" "a"), .object (entry "event" "A"),
    .object (entry "event" "a"), .object (entry "event" "a"), .object (entry "function" "b"),
    .object (entry "event" "b" ++ [("anonymous", .bool true)])])

theorem findsEvent_of_bind_sharedSignatures :
    ∃ abi model, sharedSignatures.parseAbi = .ok abi ∧
      plainBinder.bind "C" sharedSignatures = .ok model ∧
      (model.eventBySignature? "a()").map (·.normalizedName) = some "A1" ∧
      model.classification.signatures.get? "b()" = some "b" ∧
      model.eventBySignature? "b()" = none ∧ ∀ signature, model.FindsEvent signature := by
  have hbinds : (plainBinder.bind "C" sharedSignatures).toOption.map (fun model =>
      ((model.eventBySignature? "a()").map (·.normalizedName),
        model.classification.signatures.get? "b()",
        (model.eventBySignature? "b()").isNone)) = some (some "A1", some "b", true) := by
    decide +kernel
  have hparses : sharedSignatures.parseAbi.toOption.isSome = true := by decide +kernel
  obtain ⟨abi, habi⟩ := Option.isSome_iff_exists.mp hparses
  obtain ⟨model, hmodel, hfacts⟩ := Option.map_eq_some_iff.mp hbinds
  obtain ⟨hfound, hindex, hnone⟩ := by simpa only [Prod.mk.injEq] using hfacts
  rw [except_toOption_eq_some_iff] at habi hmodel
  exact ⟨abi, model, habi, hmodel, hfound, hindex, Option.isNone_iff_eq_none.mp hnone,
    fun signature => (findsEvent_of_bind habi hmodel signature).2⟩

end ContractBindings
