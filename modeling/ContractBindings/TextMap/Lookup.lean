import ContractBindings.TextMap

/-!
# Looking up in maps

A map is known by what is found under each key. The lemmas here say what every operation does
to `TextMap.get?`, and `TextMap.ext_get?` says that nothing else is to be known: two maps in
which every look-up has the same outcome are equal.
-/

namespace ContractBindings

universe u v

namespace TextMap

variable {α : Type u} {β : Type v}

/-! ### Entries -/

/-- Where no key stands twice, the value under a key is that of the entry with the key. -/
theorem lookup_eq_some_iff {entries : List (String × α)} {key : String} {value : α}
    (distinct : entries.Pairwise fun a b => a.1 ≠ b.1) :
    entries.lookup key = some value ↔ (key, value) ∈ entries := by
  induction entries with
  | nil => simp
  | cons head tail ih =>
    obtain ⟨k, a⟩ := head
    rw [List.pairwise_cons] at distinct
    rw [List.lookup_cons]
    by_cases same : key = k
    · subst same
      have absent : (key, value) ∉ tail := fun member => distinct.1 _ member rfl
      simp [absent, eq_comm]
    · simp [beq_eq_false_iff_ne.mpr same, ih distinct.2, same]

/-- What is found stands in the list. -/
theorem mem_of_lookup {entries : List (String × α)} {key : String} {value : α}
    (h : entries.lookup key = some value) : (key, value) ∈ entries := by
  obtain ⟨before, behind, rfl, -⟩ := List.lookup_eq_some_iff.mp h
  exact List.mem_append_right before List.mem_cons_self

/-- In a map no key stands twice. -/
theorem distinct_keys (map : TextMap α) : map.entries.Pairwise fun a b => a.1 ≠ b.1 :=
  map.sorted.imp fun {a b} (below : a.1 < b.1) (same : a.1 = b.1) =>
    String.lt_irrefl b.1 (same ▸ below)

/-- The value under a key is that of the entry with the key. -/
theorem get?_eq_some_iff {map : TextMap α} {key : String} {value : α} :
    map.get? key = some value ↔ (key, value) ∈ map.entries :=
  lookup_eq_some_iff map.distinct_keys

theorem mem_keys_iff {map : TextMap α} {key : String} :
    key ∈ map.keys ↔ ∃ value, map.get? key = some value := by
  simp only [keys, List.mem_map, get?_eq_some_iff]
  exact ⟨fun ⟨entry, hentry, hkey⟩ => ⟨entry.2, hkey ▸ hentry⟩,
    fun ⟨value, hentry⟩ => ⟨(key, value), hentry, rfl⟩⟩

/-- The look-up in a map does not depend on the direction in which the entries are read. -/
theorem lookup_reverse_entries (map : TextMap α) (key : String) :
    map.entries.reverse.lookup key = map.get? key := by
  have distinct : map.entries.reverse.Pairwise fun a b => a.1 ≠ b.1 :=
    List.pairwise_reverse.mpr (map.distinct_keys.imp Ne.symm)
  refine Option.ext fun value => ?_
  rw [lookup_eq_some_iff distinct, get?_eq_some_iff, List.mem_reverse]

/-- Two maps with the same outcome of every look-up are equal. -/
theorem ext_get? {m n : TextMap α} (h : ∀ key, m.get? key = n.get? key) : m = n := by
  have same : ∀ entry, entry ∈ m.entries ↔ entry ∈ n.entries := fun (key, value) => by
    rw [← get?_eq_some_iff, ← get?_eq_some_iff, h key]
  obtain ⟨first, sortedFirst⟩ := m
  obtain ⟨second, sortedSecond⟩ := n
  suffices first = second by subst this; rfl
  clear h
  simp only at same
  induction first generalizing second with
  | nil =>
    cases second with
    | nil => rfl
    | cons b bs => exact absurd ((same b).mpr List.mem_cons_self) (by simp)
  | cons a as ih =>
    cases second with
    | nil => exact absurd ((same a).mp List.mem_cons_self) (by simp)
    | cons b bs =>
      rw [List.pairwise_cons] at sortedFirst sortedSecond
      have heads : a = b := by
        rcases List.mem_cons.mp ((same a).mp List.mem_cons_self) with eq | later
        · exact eq
        · rcases List.mem_cons.mp ((same b).mpr List.mem_cons_self) with eq | earlier
          · exact eq.symm
          · exact absurd (String.lt_trans (sortedSecond.1 a later) (sortedFirst.1 b earlier))
              (String.lt_irrefl b.1)
      subst heads
      have tails : ∀ entry, entry ∈ as ↔ entry ∈ bs := fun entry => by
        constructor
        · intro member
          rcases List.mem_cons.mp ((same entry).mp (List.mem_cons_of_mem a member)) with eq | m
          · exact absurd (eq ▸ sortedFirst.1 entry member) (String.lt_irrefl _)
          · exact m
        · intro member
          rcases List.mem_cons.mp ((same entry).mpr (List.mem_cons_of_mem a member)) with eq | m
          · exact absurd (eq ▸ sortedSecond.1 entry member) (String.lt_irrefl _)
          · exact m
      rw [ih sortedFirst.2 bs sortedSecond.2 tails]

/-! ### Operations -/

/-- Nothing is found in the map without a key. -/
@[simp] theorem get?_empty (key : String) : (TextMap.empty : TextMap α).get? key = none := rfl

/-- What is found in an ascending list after `insertEntry`. -/
theorem lookup_insertEntry (key query : String) (value : α) (entries : List (String × α)) :
    (insertEntry key value entries).lookup query =
      if query = key then some value else entries.lookup query := by
  induction entries with
  | nil =>
    by_cases same : query = key
    · simp [insertEntry, same]
    · simp [insertEntry, same, List.lookup_cons, beq_eq_false_iff_ne.mpr same]
  | cons head tail ih =>
    obtain ⟨k, a⟩ := head
    simp only [insertEntry]
    by_cases same : query = key
    · subst same
      split
      · simp
      · split
        · rename_i above
          have other : query ≠ k := fun eq => String.lt_irrefl k (eq ▸ above)
          simp [List.lookup_cons, beq_eq_false_iff_ne.mpr other, ih]
        · simp
    · split
      · simp [List.lookup_cons, beq_eq_false_iff_ne.mpr same]
      · split
        · simp [List.lookup_cons, ih, same]
        · rename_i notBelow notAbove
          have eq : k = key :=
            String.le_antisymm (String.not_lt.mp notBelow) (String.not_lt.mp notAbove)
          simp [eq, List.lookup_cons, beq_eq_false_iff_ne.mpr same]

/-- A key that was set has its new value, and every other key keeps what it had. -/
theorem get?_insert (map : TextMap α) (key query : String) (value : α) :
    (map.insert key value).get? query = if query = key then some value else map.get? query :=
  lookup_insertEntry key query value map.entries

/-- After setting pairs one after the other, a key has the value of its last pair. -/
theorem get?_insertMany (map : TextMap α) (pairs : List (String × α)) (query : String) :
    (map.insertMany pairs).get? query =
      (pairs.reverse.lookup query).or (map.get? query) := by
  induction pairs generalizing map with
  | nil => simp [insertMany]
  | cons pair rest ih =>
    have step : map.insertMany (pair :: rest) = (map.insert pair.1 pair.2).insertMany rest := rfl
    rw [step, ih, get?_insert, List.reverse_cons, List.lookup_append, Option.or_assoc]
    obtain ⟨key, value⟩ := pair
    by_cases same : query = key
    · simp [same]
    · simp [same, List.lookup_cons, beq_eq_false_iff_ne.mpr same]

/-- In the map of some pairs a key has the value of its last pair. -/
theorem get?_ofList (pairs : List (String × α)) (query : String) :
    (ofList pairs).get? query = pairs.reverse.lookup query := by
  simp [ofList, get?_insertMany]

/-- Every entry of the map of some pairs is one of the pairs. -/
theorem mem_of_mem_entries_ofList {pairs : List (String × α)} {entry : String × α}
    (h : entry ∈ (ofList pairs).entries) : entry ∈ pairs := by
  rw [← get?_eq_some_iff, get?_ofList] at h
  exact List.mem_reverse.mp (mem_of_lookup h)

/-- In the map of some pairs with different keys a key has the value of its pair. -/
theorem get?_ofList_of_distinct {pairs : List (String × α)} {key : String} {value : α}
    (distinct : pairs.Pairwise fun a b => a.1 ≠ b.1) :
    (ofList pairs).get? key = some value ↔ (key, value) ∈ pairs := by
  have reversed : pairs.reverse.Pairwise fun a b => a.1 ≠ b.1 :=
    List.pairwise_reverse.mpr (distinct.imp Ne.symm)
  rw [get?_ofList, lookup_eq_some_iff reversed, List.mem_reverse]

/-- In `upper` laid over `lower` a key has its value in `upper`, or else that in `lower`. -/
theorem get?_union (lower upper : TextMap α) (key : String) :
    (lower.union upper).get? key = (upper.get? key).or (lower.get? key) := by
  rw [union, get?_insertMany, lookup_reverse_entries]

/-- A key keeps its place in a list when the values are replaced by images. -/
theorem lookup_map (f : String → α → β) (entries : List (String × α)) (key : String) :
    (entries.map fun entry => (entry.1, f entry.1 entry.2)).lookup key =
      (entries.lookup key).map (f key) := by
  induction entries with
  | nil => rfl
  | cons head tail ih =>
    obtain ⟨k, a⟩ := head
    rw [List.map_cons, List.lookup_cons, List.lookup_cons]
    by_cases same : key = k
    · simp [same]
    · simpa [beq_eq_false_iff_ne.mpr same] using ih

/-- A key keeps its place in a map when the values are replaced by images. -/
theorem get?_map (f : String → α → β) (m : TextMap α) (key : String) :
    (m.map f).get? key = (m.get? key).map (f key) :=
  lookup_map f m.entries key

/-- Values may be replaced by images before the pairs are set or afterwards. -/
theorem map_ofList (f : String → α → β) (pairs : List (String × α)) :
    (ofList pairs).map f = ofList (pairs.map fun pair => (pair.1, f pair.1 pair.2)) := by
  refine ext_get? fun key => ?_
  rw [get?_map, get?_ofList, get?_ofList, ← List.map_reverse, lookup_map]

end TextMap

end ContractBindings
