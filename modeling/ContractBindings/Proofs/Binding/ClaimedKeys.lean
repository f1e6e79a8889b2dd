import ContractBindings.Proofs.Binding.Entries

/-!
# Keys and names in a classification

Calls and transacts share one namespace, and events have another. In a namespace no two entries
have the same name in the language, and the key of each is determined by its own name and the keys
of the entries that come before it in the ABI: it is the name itself where neither the name nor
its spelling in the language has been claimed, and otherwise the name with the least number for
which that is so (`rightfullyKeyed_of_classify`). Whatever the names look like, a numbered one is
an ordinary key for the entries that follow.
-/

namespace ContractBindings

/-- **Rightfully keyed** entries of one namespace, given in the order of the ABI. -/
structure RightfullyKeyed {α : Type} (language : Language) (name normalizedName : α → String)
    (entries : List (String × α)) : Prop where
  /-- Every entry has its rightful key behind the entries before it. -/
  key : ∀ {place : Nat} {entry : String × α}, entries[place]? = some entry →
    language.IsRightfulKey ((entries.take place).map Prod.fst) (name entry.2) entry.1
  /-- The name in the language is made from the key. -/
  normalizedName : ∀ entry ∈ entries, normalizedName entry.2 = language.methodName entry.1

section WithKeys

variable {α β : Type} {language : Language} {name : α → String} {entries : List α}
  {bound : List (String × β)} {f : β → α} {normalizedName : β → String}

/-- Bound entries that go back to entries with their keys are rightfully keyed. -/
theorem rightfullyKeyed_of_map_eq_withKeys
    (h : bound.map (fun entry => (entry.1, f entry.2)) = withKeys language name entries)
    (hnames : ∀ entry ∈ bound, normalizedName entry.2 = language.methodName entry.1) :
    RightfullyKeyed language (fun b => name (f b)) normalizedName bound where
  key := by
    intro place entry hplace
    have hkeys : bound.map Prod.fst = language.claimKeys (entries.map name) := by
      rw [← map_fst_withKeys, ← h, List.map_map]
      rfl
    have hsource : entries.map name = bound.map fun entry => name (f entry.2) := by
      rw [← map_snd_withKeys language name entries, ← h, List.map_map, List.map_map]
      rfl
    rw [List.map_take, hkeys]
    refine language.isRightfulKey_claimKeys ?_ ?_
    · rw [hsource, List.getElem?_map, hplace, Option.map_some]
    · rw [← hkeys, List.getElem?_map, hplace, Option.map_some]
  normalizedName := hnames

/-- The names of bound entries that go back to entries with their keys differ. -/
theorem nodup_of_map_eq_withKeys
    (h : bound.map (fun entry => (entry.1, f entry.2)) = withKeys language name entries)
    (hnames : ∀ entry ∈ bound, normalizedName entry.2 = language.methodName entry.1) :
    (bound.map fun entry => normalizedName entry.2).Nodup := by
  have hkeys : bound.map (fun entry => normalizedName entry.2) =
      (language.claimKeys (entries.map name)).map language.methodName := by
    rw [← map_fst_withKeys, ← h, List.map_map, List.map_map]
    exact List.map_congr_left hnames
  rw [hkeys]
  exact language.nodup_map_claimKeys _

end WithKeys

/-- The entries of the calls and transacts are the methods that were bound. -/
theorem Classification.perm_methods_ofBound {methods : List (String × BoundMethod)}
    (events : List (String × BoundEvent)) (constructor : Option BoundMethod)
    (h : methods.Pairwise fun a b => a.1 ≠ b.1) :
    methods.Perm ((ofBound methods events constructor).calls.entries ++
      (ofBound methods events constructor).transacts.entries) :=
  (List.filter_append_perm (·.2.function.isConstant) methods).symm.trans
    ((TextMap.perm_entries_ofList (h.filter _)).symm.append
      (TextMap.perm_entries_ofList (h.filter _)).symm)

/-- **Names and keys of a classification**: in each of the two namespaces the names differ, and
the entries, in the order of the ABI, are rightfully keyed. -/
theorem rightfullyKeyed_of_classify {language : Language} {customs : Customs} {abi : ContractAbi}
    {before after : StructRegistry} {result : Classification}
    (h : (classify language customs abi).run before = (.ok result, after)) :
    ((result.calls.entries ++ result.transacts.entries).map (·.2.normalizedName)).Nodup ∧
      (result.events.entries.map (·.2.normalizedName)).Nodup ∧
      (∃ methods, methods.Perm (result.calls.entries ++ result.transacts.entries) ∧
        methods.map (·.2.function) = abi.boundFunctions customs ∧
        RightfullyKeyed language (·.function.name) BoundMethod.normalizedName methods) ∧
      ∃ events, events.Perm result.events.entries ∧
        events.map (·.2.event) = abi.boundEvents ∧
        RightfullyKeyed language (·.event.name) BoundEvent.normalizedName events := by
  obtain ⟨methods, events, constructor, rfl, hmethods, hevents, hmethodNames, heventNames⟩ :=
    exists_named_of_yields_classify h
  obtain ⟨hmethodKeys, hfunctions⟩ := of_map_eq_withKeys hmethods
  obtain ⟨heventKeys, hboundEvents⟩ := of_map_eq_withKeys hevents
  have hmethodPerm := Classification.perm_methods_ofBound events constructor hmethodKeys
  have heventPerm := (TextMap.perm_entries_ofList heventKeys).symm
  refine ⟨?_, ?_, ⟨methods, hmethodPerm, hfunctions, ?_⟩, events, heventPerm, hboundEvents, ?_⟩
  · exact (hmethodPerm.map _).nodup_iff.mp (nodup_of_map_eq_withKeys hmethods hmethodNames)
  · exact (heventPerm.map _).nodup_iff.mp (nodup_of_map_eq_withKeys hevents heventNames)
  · exact rightfullyKeyed_of_map_eq_withKeys hmethods hmethodNames
  · exact rightfullyKeyed_of_map_eq_withKeys hevents heventNames

/-- Names that differ in case and underscores only, and one that looks like a name with a number
behind it. -/
def spellings : ContractAbi where
  constructor := none
  functions :=
    [⟨"foo", [], [], .nonpayable⟩, ⟨"Foo", [], [], .view⟩, ⟨"_foo", [], [], .pure⟩,
      ⟨"foo0", [], [], .nonpayable⟩]
  events := [⟨"Foo", [], false⟩, ⟨"_Foo", [], true⟩, ⟨"foo", [], false⟩]

theorem rightfullyKeyed_of_classify_spellings :
    ∃ result after, (classify .golang .empty spellings).run .empty = (.ok result, after) ∧
      result.calls.keys = ["Foo0", "_foo1"] ∧ result.transacts.keys = ["foo", "foo00"] ∧
      result.events.keys = ["Foo", "foo0"] ∧
      ((result.calls.entries ++ result.transacts.entries).map (·.2.normalizedName)).Nodup ∧
      ∃ methods, methods.Perm (result.calls.entries ++ result.transacts.entries) ∧
        methods.map (·.2.function) = spellings.functions ∧
        RightfullyKeyed .golang (·.function.name) BoundMethod.normalizedName methods := by
  have hrun : (classify .golang .empty spellings).run .empty = (.ok _, _) := rfl
  obtain ⟨hnames, -, hmethods, -⟩ := rightfullyKeyed_of_classify hrun
  refine ⟨_, _, hrun, ?_, ?_, ?_, hnames, hmethods⟩ <;> decide +kernel

end ContractBindings
