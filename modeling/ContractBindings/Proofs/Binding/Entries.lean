import ContractBindings.Binding.Declaration
import ContractBindings.Proofs.Naming.Keys
import ContractBindings.Proofs.Struct.Run
import ContractBindings.TextMap.Lookup
import Mathlib.Data.List.Basic
import Mathlib.Data.List.NodupEquivFin

/-!
# The entries of a classification

A classification is made of key-indexed maps, and setting a key that is there already would lose
an entry. This does not happen: the keys of one namespace differ, so that every bound function
and event of an ABI has an entry of its own, and there are no others (`represents_of_classify`).

`exists_named_of_yields_classify` says what the maps are made of. The lists before that serve it and
the correspondence between the places of a list and the entries of a map.
-/

namespace ContractBindings

/-! ### Maps from pairs with different keys -/

section Maps

variable {α : Type} {pairs : List (String × α)}

/-- Pairs with different keys are different. -/
theorem nodup_of_distinct_keys (h : pairs.Pairwise fun a b => a.1 ≠ b.1) : pairs.Nodup :=
  h.imp fun hne => ne_of_apply_ne Prod.fst hne

theorem TextMap.mem_entries_ofList (h : pairs.Pairwise fun a b => a.1 ≠ b.1)
    {entry : String × α} : entry ∈ (TextMap.ofList pairs).entries ↔ entry ∈ pairs := by
  rw [← get?_eq_some_iff, get?_ofList_of_distinct h]

/-- The map of some pairs with different keys has just these entries. -/
theorem TextMap.perm_entries_ofList (h : pairs.Pairwise fun a b => a.1 ≠ b.1) :
    (TextMap.ofList pairs).entries.Perm pairs := by
  have hentries := nodup_of_distinct_keys (distinct_keys (TextMap.ofList pairs))
  exact (List.perm_ext_iff_of_nodup hentries (nodup_of_distinct_keys h)).mpr fun _ =>
    mem_entries_ofList h

/-- The keys of a map of pairs are those of the pairs. -/
theorem TextMap.mem_keys_ofList {key : String} :
    key ∈ (TextMap.ofList pairs).keys ↔ key ∈ pairs.map Prod.fst := by
  rw [mem_keys_iff, ← Option.isSome_iff_exists, get?_ofList, List.lookup_isSome_iff, List.mem_map]
  exact exists_congr fun entry => and_congr List.mem_reverse (by rw [beq_iff_eq, eq_comm])

end Maps

/-! ### Entries with keys -/

section WithKeys

variable {α : Type} (language : Language) (name : α → String) (entries : List α)

theorem map_fst_withKeys :
    (withKeys language name entries).map Prod.fst = language.claimKeys (entries.map name) := by
  rw [withKeys, List.map_fst_zip]
  simp

theorem map_snd_withKeys : (withKeys language name entries).map Prod.snd = entries := by
  rw [withKeys, List.map_snd_zip]
  simp

/-- Entries of one namespace have different keys. -/
theorem nodup_map_fst_withKeys : ((withKeys language name entries).map Prod.fst).Nodup := by
  rw [map_fst_withKeys]
  exact language.nodup_claimKeys _

/-- Bound entries that go back to entries with their keys have different keys. -/
theorem of_map_eq_withKeys {β : Type} {language : Language} {name : α → String}
    {entries : List α} {bound : List (String × β)} {f : β → α}
    (h : bound.map (fun entry => (entry.1, f entry.2)) = withKeys language name entries) :
    (bound.Pairwise fun a b => a.1 ≠ b.1) ∧ bound.map (fun entry => f entry.2) = entries := by
  constructor
  · have hnodup := nodup_map_fst_withKeys language name entries
    rw [← h, List.map_map] at hnodup
    exact List.pairwise_map.mp hnodup
  · rw [← map_snd_withKeys language name entries, ← h, List.map_map]
    rfl

end WithKeys

/-! ### Places in lists -/

section Places

variable {α β γ : Type}

/-- Two lists without repetition whose images are the same correspond to each other. -/
private theorem exists_equiv_of_map_eq {items : List α} {others : List β} (hitems : items.Nodup)
    (hothers : others.Nodup) {f : α → γ} {g : β → γ} (h : items.map f = others.map g) :
    ∃ e : { item // item ∈ items } ≃ { other // other ∈ others },
      ∀ item, g (e item).1 = f item.1 := by
  classical
  have hlength : items.length = others.length := by simpa using congrArg List.length h
  -- items at the same place
  refine ⟨(hitems.getEquiv items).symm.trans
    ((finCongr hlength).trans (hothers.getEquiv others)), fun item => ?_⟩
  obtain ⟨place, rfl⟩ := (hitems.getEquiv items).surjective item
  have hplace : place.1 < others.length := hlength ▸ place.2
  have hsame := congrArg (·[place.1]?) h
  simp only [List.getElem?_map, List.getElem?_eq_getElem place.2,
    List.getElem?_eq_getElem hplace, Option.map_some, Option.some.injEq] at hsame
  rw [Equiv.trans_apply, Equiv.symm_apply_apply, Equiv.trans_apply]
  exact hsame.symm

/-- If a list without repetition has the items with a property as its images, the places of
these items correspond to the list. -/
theorem exists_equiv_places {items : List α} {p : α → Bool} {others : List β}
    (hothers : others.Nodup) {f : β → α} (h : items.filter p = others.map f) :
    ∃ e : { place : Fin items.length // p items[place] = true } ≃ { other // other ∈ others },
      ∀ place, f (e place).1 = items[place.1] := by
  -- the items with their places are a list without repetition, too
  have hplaced : (items.zipIdx.filter (p ·.1)).Nodup := by
    refine List.Nodup.filter _ (List.Nodup.of_map Prod.snd ?_)
    rw [List.zipIdx_map_snd]
    exact List.nodup_range'
  have himages : (items.zipIdx.filter (p ·.1)).map Prod.fst = others.map f := by
    rw [← h, ← Function.comp_def, ← List.filter_map, List.zipIdx_map_fst]
  have hmem : ∀ place : { place : Fin items.length // p items[place] = true },
      (items[place.1], place.1.1) ∈ items.zipIdx.filter (p ·.1) := fun place =>
    List.mem_filter.mpr ⟨List.mk_mem_zipIdx_iff_getElem?.mpr (List.getElem?_eq_getElem _), place.2⟩
  obtain ⟨e, he⟩ := exists_equiv_of_map_eq hplaced hothers himages
  refine ⟨(Equiv.ofBijective (fun place => ⟨_, hmem place⟩) ⟨?_, ?_⟩).trans e, fun place => he _⟩
  · intro place other hsame
    exact Subtype.ext (Fin.ext (Prod.mk.inj (Subtype.mk.inj hsame)).2)
  · rintro ⟨⟨item, place⟩, hitem⟩
    obtain ⟨hplace, hproperty⟩ := List.mem_filter.mp hitem
    obtain ⟨hlength, rfl⟩ :=
      List.getElem?_eq_some_iff.mp (List.mk_mem_zipIdx_iff_getElem?.mp hplace)
    exact ⟨⟨⟨place, hlength⟩, hproperty⟩, rfl⟩

end Places

/-! ### What a classification is made of -/

section Bound

variable {language : Language} {before after : StructRegistry} {key : String}

theorem of_yields_bindMethod {f : AbiFunction} {method : BoundMethod}
    (h : (bindMethod language key f).Yields before method after) :
    method.function = f ∧ method.normalizedName = language.methodName key := by
  obtain ⟨_, _, -, h⟩ := Resolve.yields_bind.mp h
  obtain ⟨_, _, -, h⟩ := Resolve.yields_bind.mp h
  obtain ⟨rfl, -⟩ := Resolve.yields_pure.mp h
  exact ⟨rfl, rfl⟩

theorem of_yields_bindEvent {e : AbiEvent} {event : BoundEvent}
    (h : (bindEvent language key e).Yields before event after) :
    event.event = e ∧ event.normalizedName = language.methodName key := by
  obtain ⟨_, _, -, h⟩ := Resolve.yields_bind.mp h
  obtain ⟨rfl, -⟩ := Resolve.yields_pure.mp h
  exact ⟨rfl, rfl⟩

end Bound

/-- Bound methods and events are declared one by one. -/
theorem Classification.declared_ofBound (structs : StructRegistry)
    (methods : List (String × BoundMethod)) (events : List (String × BoundEvent))
    (constructor : Option BoundMethod) :
    (ofBound methods events constructor).declared structs =
      ofBound (methods.map fun entry => (entry.1, entry.2.declared structs))
        (events.map fun entry => (entry.1, entry.2.declared structs))
        (constructor.map (·.declaredConstructor structs)) := by
  rw [declared, ofBound, ofBound, Classification.mk.injEq]
  refine ⟨?_, ?_, ?_, rfl, ?_⟩
  · rw [TextMap.map_ofList, List.filter_map]
    rfl
  · rw [TextMap.map_ofList, List.filter_map]
    rfl
  · rw [TextMap.map_ofList]
  · rw [List.map_map, List.map_map]
    rfl

/-- A successful classification binds the functions and events of the ABI one by one, each under
its key and with the name made from it. -/
theorem exists_named_of_yields_classify {language : Language} {customs : Customs}
    {abi : ContractAbi} {before after : StructRegistry} {result : Classification}
    (h : (classify language customs abi).Yields before result after) :
    ∃ methods events constructor, result = .ofBound methods events constructor ∧
      methods.map (fun entry => (entry.1, entry.2.function)) =
        withKeys language AbiFunction.name (abi.boundFunctions customs) ∧
      events.map (fun entry => (entry.1, entry.2.event)) =
        withKeys language AbiEvent.name abi.boundEvents ∧
      (∀ entry ∈ methods, entry.2.normalizedName = language.methodName entry.1) ∧
      ∀ entry ∈ events, entry.2.normalizedName = language.methodName entry.1 := by
  obtain ⟨methods, _, hmethods, h⟩ := Resolve.yields_bind.mp h
  obtain ⟨events, _, hevents, h⟩ := Resolve.yields_bind.mp h
  obtain ⟨constructor, _, -, h⟩ := Resolve.yields_bind.mp h
  obtain ⟨rfl, -⟩ := Resolve.yields_pure.mp h
  refine ⟨methods, events, constructor, rfl,
    Resolve.map_eq_of_yields_mapM (fun (key, f) _ _ _ hentry => ?_) hmethods,
    Resolve.map_eq_of_yields_mapM (fun (key, e) _ _ _ hentry => ?_) hevents,
    Resolve.forall_mem_of_yields_mapM (fun (key, f) _ _ _ hentry => ?_) hmethods,
    Resolve.forall_mem_of_yields_mapM (fun (key, e) _ _ _ hentry => ?_) hevents⟩
  all_goals
    obtain ⟨bound, _, hbound, hentry⟩ := Resolve.yields_bind.mp hentry
    obtain ⟨rfl, -⟩ := Resolve.yields_pure.mp hentry
  · rw [(of_yields_bindMethod hbound).1]
  · rw [(of_yields_bindEvent hbound).1]
  · exact (of_yields_bindMethod hbound).2
  · exact (of_yields_bindEvent hbound).2

theorem exists_of_yields_classify {language : Language} {customs : Customs} {abi : ContractAbi}
    {before after : StructRegistry} {result : Classification}
    (h : (classify language customs abi).Yields before result after) :
    ∃ methods events constructor, result = .ofBound methods events constructor ∧
      methods.map (fun entry => (entry.1, entry.2.function)) =
        withKeys language AbiFunction.name (abi.boundFunctions customs) ∧
      events.map (fun entry => (entry.1, entry.2.event)) =
        withKeys language AbiEvent.name abi.boundEvents := by
  obtain ⟨methods, events, constructor, hresult, hmethods, hevents, -⟩ :=
    exists_named_of_yields_classify h
  exact ⟨methods, events, constructor, hresult, hmethods, hevents⟩

/-! ### One entry for each function and event -/

/-- **Entry** of a map. -/
abbrev TextMap.Entry {α : Type} (map : TextMap α) : Type :=
  { entry : String × α // entry ∈ map.entries }

namespace ContractAbi

/-- **Place** of a bound function in an ABI. -/
abbrev FunctionPlace (abi : ContractAbi) (customs : Customs) : Type :=
  { place : Fin abi.functions.length // customs.includesMethod abi.functions[place].name = true }

/-- **Place** of a bound event in an ABI. -/
abbrev EventPlace (abi : ContractAbi) : Type :=
  { place : Fin abi.events.length // abi.events[place].anonymous = false }

end ContractAbi

namespace Classification

/-- **Entry** of a bound method, with the calls on the left and the transacts on the right. -/
abbrev MethodEntry (result : Classification) : Type :=
  result.calls.Entry ⊕ result.transacts.Entry

/-- The bound method of an entry. -/
def MethodEntry.method {result : Classification} (entry : result.MethodEntry) : BoundMethod :=
  entry.elim (·.1.2) (·.1.2)

/-- **Faithful** classification of an ABI: nothing is lost and nothing is there twice. -/
structure Represents (result : Classification) (customs : Customs) (abi : ContractAbi) : Prop where
  /-- Bound functions correspond to methods; those that leave the state as it is are calls. -/
  methods : ∃ e : abi.FunctionPlace customs ≃ result.MethodEntry, ∀ place,
    (e place).method.function = abi.functions[place.1] ∧
      (e place).isLeft = abi.functions[place.1].isConstant
  /-- The calls are the bound functions that leave the state as it is. -/
  calls : (result.calls.entries.map (·.2.function)).Perm
    (abi.viewFunctions.filter fun f => customs.includesMethod f.name)
  /-- The transacts are the other bound functions. -/
  transacts : (result.transacts.entries.map (·.2.function)).Perm
    (abi.transactionFunctions.filter fun f => customs.includesMethod f.name)
  /-- Calls and transacts have no key in common. -/
  disjoint : result.calls.keys.Disjoint result.transacts.keys
  /-- Events that are not anonymous correspond to bound events. -/
  events : ∃ e : abi.EventPlace ≃ result.events.Entry, ∀ place,
    (e place).1.2.event = abi.events[place.1]
  /-- The signatures are those of the bound methods and events. -/
  signatures : ∀ signature, signature ∈ result.signatures.keys ↔
    (∃ entry : result.MethodEntry, entry.method.function.signature = signature) ∨
      ∃ entry : result.events.Entry, entry.1.2.event.signature = signature

section OfBound

variable {methods : List (String × BoundMethod)} {events : List (String × BoundEvent)}
  {constructor : Option BoundMethod}

/-- Methods with different keys are the entries of the calls and transacts. -/
theorem exists_equiv_methodEntry (h : methods.Pairwise fun a b => a.1 ≠ b.1) :
    ∃ e : { entry // entry ∈ methods } ≃ (ofBound methods events constructor).MethodEntry,
      ∀ entry, (e entry).method = entry.1.2 ∧ (e entry).isLeft = entry.1.2.function.isConstant := by
  have hcalls : ∀ entry, entry ∈ (ofBound methods events constructor).calls.entries ↔
      entry ∈ methods ∧ entry.2.function.isConstant = true := fun entry => by
    rw [ofBound, TextMap.mem_entries_ofList (h.filter _), List.mem_filter]
  have htransacts : ∀ entry, entry ∈ (ofBound methods events constructor).transacts.entries ↔
      entry ∈ methods ∧ entry.2.function.isConstant = false := fun entry => by
    rw [ofBound, TextMap.mem_entries_ofList (h.filter _), List.mem_filter, Bool.not_eq_true']
  refine ⟨{
    toFun := fun entry =>
      if hconstant : entry.1.2.function.isConstant = true then
        .inl ⟨entry.1, (hcalls _).mpr ⟨entry.2, hconstant⟩⟩
      else .inr ⟨entry.1, (htransacts _).mpr ⟨entry.2, Bool.eq_false_of_not_eq_true hconstant⟩⟩
    invFun := Sum.elim (fun entry => ⟨entry.1, ((hcalls _).mp entry.2).1⟩)
      fun entry => ⟨entry.1, ((htransacts _).mp entry.2).1⟩
    left_inv := fun entry => ?_
    right_inv := ?_ }, fun entry => ?_⟩
  · dsimp only
    split <;> rfl
  · rintro (⟨entry, hentry⟩ | ⟨entry, hentry⟩)
    · simp [((hcalls _).mp hentry).2]
    · simp [((htransacts _).mp hentry).2]
  · dsimp only [Equiv.coe_fn_mk]
    split
    · rename_i hconstant
      exact ⟨rfl, hconstant.symm⟩
    · rename_i hconstant
      exact ⟨rfl, (Bool.eq_false_of_not_eq_true hconstant).symm⟩

/-- Methods with different keys are in one of the two maps. -/
theorem mem_entries_ofBound (h : methods.Pairwise fun a b => a.1 ≠ b.1)
    {entry : String × BoundMethod} :
    entry ∈ (ofBound methods events constructor).calls.entries ++
        (ofBound methods events constructor).transacts.entries ↔ entry ∈ methods := by
  rw [ofBound, List.mem_append, TextMap.mem_entries_ofList (h.filter _),
    TextMap.mem_entries_ofList (h.filter _), List.mem_filter, List.mem_filter, ← and_or_left]
  cases entry.2.function.isConstant <;> simp

/-- The calls of methods with different keys are those that leave the state as it is. -/
theorem perm_calls_ofBound (h : methods.Pairwise fun a b => a.1 ≠ b.1) :
    ((ofBound methods events constructor).calls.entries.map (·.2.function)).Perm
      ((methods.map (·.2.function)).filter (·.isConstant)) := by
  rw [List.filter_map]
  exact (TextMap.perm_entries_ofList (h.filter _)).map _

theorem perm_transacts_ofBound (h : methods.Pairwise fun a b => a.1 ≠ b.1) :
    ((ofBound methods events constructor).transacts.entries.map (·.2.function)).Perm
      ((methods.map (·.2.function)).filter (!·.isConstant)) := by
  rw [List.filter_map]
  exact (TextMap.perm_entries_ofList (h.filter _)).map _

/-- Methods with different keys make calls and transacts without a common key. -/
theorem disjoint_ofBound (h : methods.Pairwise fun a b => a.1 ≠ b.1) :
    (ofBound methods events constructor).calls.keys.Disjoint
      (ofBound methods events constructor).transacts.keys := by
  intro key hcalls htransacts
  obtain ⟨call, hcall, rfl⟩ := List.mem_map.mp (TextMap.mem_keys_ofList.mp hcalls)
  obtain ⟨transact, htransact, hkey⟩ := List.mem_map.mp (TextMap.mem_keys_ofList.mp htransacts)
  obtain ⟨hcall, hconstant⟩ := List.mem_filter.mp hcall
  obtain ⟨htransact, hchanging⟩ := List.mem_filter.mp htransact
  -- with the same key they are one method, which is a call and is none
  have hsame := List.inj_on_of_nodup_map (List.pairwise_map.mpr h) hcall htransact hkey.symm
  rw [hsame] at hconstant
  exact absurd hconstant (by simpa using hchanging)

/-- The signatures are those of the methods and events. -/
theorem mem_keys_signatures_ofBound {signature : String} :
    signature ∈ (ofBound methods events constructor).signatures.keys ↔
      (∃ entry ∈ methods, entry.2.function.signature = signature) ∨
        ∃ entry ∈ events, entry.2.event.signature = signature := by
  rw [ofBound, TextMap.mem_keys_ofList, List.map_append, List.mem_append, List.map_map,
    List.map_map, List.mem_map, List.mem_map]
  rfl

end OfBound

end Classification

/-- **Classification** loses no function and no event, and has none twice. -/
theorem represents_of_classify {language : Language} {customs : Customs} {abi : ContractAbi}
    {before after : StructRegistry} {result : Classification}
    (h : (classify language customs abi).run before = (.ok result, after)) :
    result.Represents customs abi := by
  obtain ⟨methods, events, constructor, rfl, hmethods, hevents⟩ := exists_of_yields_classify h
  obtain ⟨hmethodKeys, hfunctions⟩ := of_map_eq_withKeys hmethods
  obtain ⟨heventKeys, hboundEvents⟩ := of_map_eq_withKeys hevents
  -- from places to bound methods, and from these to the entries of the two maps
  obtain ⟨toMethod, htoMethod⟩ := exists_equiv_places (nodup_of_distinct_keys hmethodKeys)
    hfunctions.symm
  obtain ⟨toEntry, htoEntry⟩ : ∃ e : _ ≃ (Classification.ofBound methods events
      constructor).MethodEntry, _ := Classification.exists_equiv_methodEntry hmethodKeys
  obtain ⟨toEvent, htoEvent⟩ := exists_equiv_places (nodup_of_distinct_keys heventKeys)
    hboundEvents.symm
  have hevent : ∀ entry, entry ∈ (TextMap.ofList events).entries ↔ entry ∈ events := fun _ =>
    TextMap.mem_entries_ofList heventKeys
  exact {
    methods := by
      refine ⟨toMethod.trans toEntry, fun place => ?_⟩
      obtain ⟨hmethod, hleft⟩ := htoEntry (toMethod place)
      rw [Equiv.trans_apply, hmethod, hleft, htoMethod]
      exact ⟨rfl, rfl⟩
    calls := by
      rw [ContractAbi.viewFunctions, List.filter_comm, ← ContractAbi.boundFunctions, ← hfunctions]
      exact Classification.perm_calls_ofBound hmethodKeys
    transacts := by
      rw [ContractAbi.transactionFunctions, List.filter_comm, ← ContractAbi.boundFunctions,
        ← hfunctions]
      exact Classification.perm_transacts_ofBound hmethodKeys
    disjoint := Classification.disjoint_ofBound hmethodKeys
    events := by
      refine ⟨((Equiv.subtypeEquivRight fun place => by simp).trans toEvent).trans
        (Equiv.subtypeEquivRight fun entry => (hevent entry).symm), fun place => htoEvent _⟩
    signatures := fun signature => by
      rw [Classification.mem_keys_signatures_ofBound]
      refine or_congr ⟨?_, ?_⟩ ⟨?_, ?_⟩
      · rintro ⟨entry, hmem, hsignature⟩
        exact ⟨toEntry ⟨entry, hmem⟩, (htoEntry _).1 ▸ hsignature⟩
      · rintro ⟨entry, hsignature⟩
        obtain ⟨⟨entry, hmem⟩, rfl⟩ := toEntry.surjective entry
        rw [(htoEntry _).1] at hsignature
        exact ⟨entry, hmem, hsignature⟩
      · rintro ⟨entry, hmem, hsignature⟩
        exact ⟨⟨entry, (hevent entry).mpr hmem⟩, hsignature⟩
      · rintro ⟨⟨entry, hmem⟩, hsignature⟩
        exact ⟨entry, (hevent entry).mp hmem, hsignature⟩ }

/-- Overloads, a duplicate, and a name that looks like one with a number behind it. -/
def overloads : ContractAbi where
  constructor := none
  functions :=
    [⟨"mint", [], [], .nonpayable⟩, ⟨"mint0", [], [], .view⟩,
      ⟨"mint", [⟨"", .elementary .bool, none, false⟩], [], .pure⟩, ⟨"mint", [], [], .nonpayable⟩]
  events := [⟨"mint", [], false⟩, ⟨"mint", [], true⟩, ⟨"Mint", [], false⟩]

theorem represents_of_classify_overloads :
    ∃ result after, (classify .golang .empty overloads).run .empty = (.ok result, after) ∧
      result.calls.keys = ["mint0", "mint1"] ∧ result.transacts.keys = ["mint", "mint2"] ∧
      result.events.keys = ["Mint0", "mint"] ∧ result.Represents .empty overloads := by
  have hrun : (classify .golang .empty overloads).run .empty = (.ok _, _) := rfl
  refine ⟨_, _, hrun, ?_, ?_, ?_, represents_of_classify hrun⟩ <;> decide +kernel

end ContractBindings
