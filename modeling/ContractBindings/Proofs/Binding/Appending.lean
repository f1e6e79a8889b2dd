import ContractBindings.Proofs.Binding.Faults

/-!
# Appended entries

What is appended to an ABI renames nothing that is there (`entries_subset_of_classify_appended`).
Keys are claimed from the first entry on, and a display name is found behind every traversal that
starts with the same tuples. The methods come first in both respects, so that they are the same
whatever is appended. An event has its key from the events before it alone, but its structs are
numbered behind those of all methods. So events are only kept where no functions are appended.

The longer ABI has to be legal, as every one is that has been read
(`ContractAbi.isLegal_of_ofJson`): mapping a legal type fails for a fault in the type alone.
-/

namespace ContractBindings

/-! ### Longer ABIs -/

/-- An ABI with more functions and events behind its own. -/
def ContractAbi.appended (abi : ContractAbi) (functions : List AbiFunction)
    (events : List AbiEvent) : ContractAbi :=
  { abi with functions := abi.functions ++ functions, events := abi.events ++ events }

section Appended

variable (language : Language) (customs : Customs) (overrides : TextMap String)
  (abi : ContractAbi) (functions : List AbiFunction) (events : List AbiEvent)

theorem ContractAbi.boundFunctions_appended :
    (abi.appended functions events).boundFunctions customs = abi.boundFunctions customs ++
      functions.filter fun f => customs.includesMethod f.name :=
  List.filter_append _ _

theorem ContractAbi.boundEvents_appended :
    (abi.appended functions events).boundEvents =
      abi.boundEvents ++ events.filter fun e => !e.anonymous :=
  List.filter_append _ _

/-- The parameters that were bound are bound still. -/
theorem ContractAbi.boundParameters_subset_appended :
    abi.boundParameters customs ⊆ (abi.appended functions events).boundParameters customs := by
  rw [boundParameters, boundParameters, boundFunctions_appended, boundEvents_appended,
    List.flatMap_append, List.flatMap_append, List.append_assoc]
  intro parameter hparameter
  simp only [List.mem_append] at hparameter ⊢
  rcases hparameter with hfunction | hevent | hconstructor
  · exact .inl hfunction
  · exact .inr (.inr (.inl (.inl hevent)))
  · exact .inr (.inr (.inr hconstructor))

variable {abi functions events}

theorem ContractAbi.IsLegal.of_appended (h : (abi.appended functions events).IsLegal) :
    abi.IsLegal where
  constructor := h.constructor
  functions := fun f hf => h.functions f (List.mem_append_left _ hf)
  events := fun e he => h.events e (List.mem_append_left _ he)

/-- If the longer ABI is classified without a fault, so is the shorter one. -/
theorem exists_yields_classify_of_appended {language : Language} {customs : Customs}
    {before registry : StructRegistry} {later : Classification}
    (hlegal : (abi.appended functions events).IsLegal)
    (h : (classify language customs (abi.appended functions events)).Yields before later registry) :
    ∃ earlier after, (classify language customs abi).Yields before earlier after := by
  have hlonger := (failsAs_classify hlegal customs).eq_none_of_yields h
  have hshorter : language.parameterFault? (abi.boundParameters customs) = none := by
    rw [Language.parameterFault?, List.findSome?_eq_none_iff] at hlonger ⊢
    exact fun parameter hparameter => hlonger parameter
      (abi.boundParameters_subset_appended customs functions events hparameter)
  have hfails : FailsAs (classify language customs abi) _ :=
    failsAs_classify hlegal.of_appended customs
  rw [hshorter] at hfails
  exact hfails.exists_yields before

end Appended

/-! ### Entries behind the same beginning -/

section Keyed

variable {α β : Type} (language : Language) (name : α → String)

/-- Entries keep their keys when others are appended. -/
theorem withKeys_prefix_append (entries others : List α) :
    withKeys language name entries <+: withKeys language name (entries ++ others) := by
  obtain ⟨keys, hkeys⟩ := language.claimKeys_prefix_append (entries.map name) (others.map name)
  have hlength : (language.claimKeys (entries.map name)).length = entries.length := by simp
  refine ⟨keys.zip others, ?_⟩
  rw [withKeys, withKeys, List.map_append, ← hkeys, List.zip_append hlength]

/-- Entries of one namespace, bound under their keys. -/
def keyedEntries (bound : String → α → β) (entries : List α) : List (String × β) :=
  (withKeys language name entries).map fun (key, entry) => (key, bound key entry)

theorem distinct_keyedEntries (bound : String → α → β) (entries : List α) :
    (keyedEntries language name bound entries).Pairwise fun a b => a.1 ≠ b.1 :=
  List.pairwise_map.mpr (List.pairwise_map.mp (nodup_map_fst_withKeys language name entries))

/-- Entries that are bound alike are there still when others are appended. -/
theorem keyedEntries_subset_append {bound rebound : String → α → β} {entries : List α}
    (others : List α) (h : ∀ entry ∈ entries, ∀ key, bound key entry = rebound key entry) :
    keyedEntries language name bound entries ⊆
      keyedEntries language name rebound (entries ++ others) := by
  intro keyed hkeyed
  obtain ⟨⟨key, entry⟩, hmem, rfl⟩ := List.mem_map.mp hkeyed
  have hentry : entry ∈ entries :=
    map_snd_withKeys language name entries ▸ List.mem_map_of_mem hmem
  have hlater := (withKeys_prefix_append language name entries others).subset hmem
  exact List.mem_map.mpr ⟨(key, entry), hlater, congrArg (key, ·) (h entry hentry key).symm⟩

end Keyed

/-- Pairs with different keys are entries of every map of more such pairs. -/
theorem TextMap.entries_ofList_subset {α : Type} {pairs others : List (String × α)}
    (hothers : others.Pairwise fun a b => a.1 ≠ b.1) (h : pairs ⊆ others) :
    (ofList pairs).entries ⊆ (ofList others).entries := fun _ hentry =>
  (mem_entries_ofList hothers).mpr (h (mem_of_mem_entries_ofList hentry))

/-- Two traversals that start with the same tuples give these the same display names. -/
theorem displayName_eq_of_prefix {language : Language} {overrides : TextMap String}
    {tuples first second : List TupleFields} (hfirst : tuples <+: first)
    (hsecond : tuples <+: second) {fields : TupleFields} (h : fields ∈ tuples) :
    displayName language overrides first (tupleSignature fields) =
      displayName language overrides second (tupleSignature fields) := by
  obtain ⟨_, rfl⟩ := hfirst
  obtain ⟨_, rfl⟩ := hsecond
  have hsignature := List.mem_map_of_mem h (f := tupleSignature)
  rw [displayName_append hsignature, displayName_append hsignature]

/-! ### Classifications -/

section Classifications

variable (language : Language) (customs : Customs) (overrides : TextMap String)
  (abi : ContractAbi) (functions : List AbiFunction) (events : List AbiEvent)

/-- The bound methods of an ABI with their keys. -/
def ContractAbi.keyedMethods : List (String × BoundMethod) :=
  keyedEntries language AbiFunction.name
    (namedMethod language (displayName language overrides (abi.traversal customs)))
    (abi.boundFunctions customs)

/-- The bound events of an ABI with their keys. -/
def ContractAbi.keyedEvents : List (String × BoundEvent) :=
  keyedEntries language AbiEvent.name
    (namedEvent language (displayName language overrides (abi.traversal customs))) abi.boundEvents

/-- Methods are bound as they were before anything was appended: their tuples come first in the
traversal. -/
theorem ContractAbi.keyedMethods_subset_appended :
    abi.keyedMethods language customs overrides ⊆
      (abi.appended functions events).keyedMethods language customs overrides := by
  rw [keyedMethods, keyedMethods, boundFunctions_appended]
  refine keyedEntries_subset_append language AbiFunction.name _ fun f hf key => ?_
  refine (registers_bindMethod language overrides key f).congr _ _ fun fields hfields => ?_
  have hmem : fields ∈ (abi.boundFunctions customs).flatMap AbiFunction.tuples :=
    List.mem_flatMap.mpr ⟨f, hf, hfields⟩
  refine displayName_eq_of_prefix (List.prefix_append _ _) ?_ hmem
  rw [traversal, boundFunctions_appended, List.flatMap_append, List.append_assoc]
  exact List.prefix_append _ _

/-- Events are, if no functions were appended: their tuples come right behind those of the
functions. -/
theorem ContractAbi.keyedEvents_subset_appended :
    abi.keyedEvents language customs overrides ⊆
      (abi.appended [] events).keyedEvents language customs overrides := by
  rw [keyedEvents, keyedEvents, boundEvents_appended]
  refine keyedEntries_subset_append language AbiEvent.name _ fun e he key => ?_
  refine (registers_bindEvent language overrides key e).congr _ _ fun fields hfields => ?_
  have hmem : fields ∈ (abi.boundFunctions customs).flatMap AbiFunction.tuples ++
      abi.boundEvents.flatMap AbiEvent.tuples :=
    List.mem_append_right _ (List.mem_flatMap.mpr ⟨e, he, hfields⟩)
  refine displayName_eq_of_prefix ?_ ?_ hmem
  · rw [traversal, ← List.append_assoc]
    exact List.prefix_append _ _
  · rw [traversal, boundFunctions_appended, boundEvents_appended, List.filter_nil,
      List.append_nil, List.flatMap_append, List.append_assoc, ← List.append_assoc]
    exact List.prefix_append _ _

variable {language customs overrides abi functions events}

/-- **Appending renames nothing**: if an ABI that has further functions and events behind those of
another one is classified, so is the other one, and each of its methods is there under the same key
with the same names and types; without further functions so is each of its events. -/
theorem entries_subset_of_classify_appended {later : Classification} {registry : StructRegistry}
    (hlegal : (abi.appended functions events).IsLegal)
    (h : (classify language customs (abi.appended functions events)).run
      (.withOverrides overrides) = (.ok later, registry)) :
    ∃ earlier before,
      (classify language customs abi).run (.withOverrides overrides) = (.ok earlier, before) ∧
      earlier.calls.entries ⊆ later.calls.entries ∧
      earlier.transacts.entries ⊆ later.transacts.entries ∧
      (functions = [] → earlier.events.entries ⊆ later.events.entries) := by
  obtain ⟨earlier, before, hearlier⟩ := exists_yields_classify_of_appended hlegal h
  obtain ⟨-, rfl⟩ := of_yields_classify hearlier
  obtain ⟨-, rfl⟩ := of_yields_classify h
  have hmethods := abi.keyedMethods_subset_appended language customs overrides functions events
  have hdistinct : ((abi.appended functions events).keyedMethods language customs
      overrides).Pairwise fun a b => a.1 ≠ b.1 := distinct_keyedEntries language _ _ _
  refine ⟨_, before, hearlier, ?_, ?_, ?_⟩
  · exact TextMap.entries_ofList_subset (hdistinct.filter _) (List.filter_subset _ hmethods)
  · exact TextMap.entries_ofList_subset (hdistinct.filter _) (List.filter_subset _ hmethods)
  · rintro rfl
    exact TextMap.entries_ofList_subset (distinct_keyedEntries language _ _ _)
      (abi.keyedEvents_subset_appended language customs overrides events)

end Classifications

/-- A parameter whose type is a tuple with the given fields. -/
private def tupleInput (fields : TupleFields) : AbiParameter := ⟨"", .tuple fields, none, false⟩

/-- A parameter of two fields, the struct for which has a custom name. -/
private def pairInput : AbiParameter :=
  tupleInput [("to", .elementary .address), ("value", .elementary (.uint 256))]

private def flagInput : AbiParameter := tupleInput [("flag", .elementary .bool)]

/-- Two overloads and an event. -/
def getters : ContractAbi where
  constructor := none
  functions := [⟨"get", [], [pairInput], .view⟩, ⟨"get", [flagInput], [], .nonpayable⟩]
  events := [⟨"Got", [flagInput], false⟩]

/-- They are followed by a function whose name is taken and whose tuple is new. -/
def moreGetters : ContractAbi := getters.appended [⟨"Get", [tupleInput []], [], .view⟩] []

/-- They are followed by an event whose name is taken. -/
def moreEvents : ContractAbi := getters.appended [] [⟨"got", [pairInput], false⟩]

/-- A custom name for the struct of a pair. -/
def pairName : TextMap String := .ofList [("(address,uint256)", "Pair")]

theorem entries_subset_of_classify_appended_getters :
    ∃ earlier before getter afterGetter event afterEvent,
      (classify .golang .empty getters).run (.withOverrides pairName) = (.ok earlier, before) ∧
      (classify .golang .empty moreGetters).run (.withOverrides pairName) =
        (.ok getter, afterGetter) ∧
      getter.calls.keys = ["Get1", "get"] ∧ earlier.calls.entries ⊆ getter.calls.entries ∧
      earlier.transacts.entries ⊆ getter.transacts.entries ∧
      (classify .golang .empty moreEvents).run (.withOverrides pairName) =
        (.ok event, afterEvent) ∧
      event.events.keys = ["Got", "got0"] ∧ earlier.events.entries ⊆ event.events.entries := by
  have hpair : pairInput.type.IsLegal := .tuple (List.forall_mem_cons.mpr
    ⟨.elementary trivial, List.forall_mem_singleton.mpr (.elementary (by decide))⟩)
  have hflag : flagInput.type.IsLegal :=
    .tuple (List.forall_mem_singleton.mpr (.elementary trivial))
  have hunit : (tupleInput []).type.IsLegal := .tuple fun _ h => absurd h List.not_mem_nil
  have hmoreGetters : moreGetters.IsLegal := by
    constructor <;> simp [moreGetters, ContractAbi.appended, getters, AbiFunction.parameters,
      hpair, hflag, hunit]
  have hmoreEvents : moreEvents.IsLegal := by
    constructor <;> simp [moreEvents, ContractAbi.appended, getters, AbiFunction.parameters,
      hpair, hflag]
  have hgetter : (classify .golang .empty moreGetters).run (.withOverrides pairName) =
    (.ok _, _) := rfl
  have hevent : (classify .golang .empty moreEvents).run (.withOverrides pairName) =
    (.ok _, _) := rfl
  obtain ⟨earlier, before, hearlier, hcalls, htransacts, -⟩ :=
    entries_subset_of_classify_appended hmoreGetters hgetter
  obtain ⟨_, _, hagain, -, -, hevents⟩ := entries_subset_of_classify_appended hmoreEvents hevent
  obtain rfl := Except.ok.inj (Prod.mk.inj (hearlier.symm.trans hagain)).1
  exact ⟨earlier, before, _, _, _, _, hearlier, hgetter, by decide +kernel, hcalls, htransacts,
    hevent, by decide +kernel, hevents rfl⟩

end ContractBindings
