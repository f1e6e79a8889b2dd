/-!
# Finite maps with text keys

`TextMap α` holds values under texts. Its entries are a list in strictly ascending order of
the keys, by code point, so a map has **one** representation and is read out in the order in
which it is written.

* `get?` — the value under a key;
* `insert` — a key set to a value, whether it was there or not;
* `union` — one map laid over another: the upper one wins;
* `ofList` — a map from pairs: the last pair of a key wins.
-/

namespace ContractBindings

universe u v

/-- **Finite map** from texts to `α`, in ascending order of the keys. -/
structure TextMap (α : Type u) where
  /-- The keys with their values. -/
  entries : List (String × α)
  /-- Every key is less than the keys after it. -/
  sorted : entries.Pairwise fun a b => a.1 < b.1

namespace TextMap

variable {α : Type u} {β : Type v}

/-- The map without a key. -/
protected def empty : TextMap α := ⟨[], .nil⟩

instance : Inhabited (TextMap α) := ⟨TextMap.empty⟩

instance : EmptyCollection (TextMap α) := ⟨TextMap.empty⟩

/-- The value under a key, if there is one. -/
def get? (map : TextMap α) (key : String) : Option α := map.entries.lookup key

/-- Whether no key has a value. -/
def isEmpty (map : TextMap α) : Bool := map.entries.isEmpty

/-- The keys, in ascending order. -/
def keys (map : TextMap α) : List String := map.entries.map (·.1)

/-! ### Setting a key -/

/-- An ascending list of entries with `key` set to `value`. -/
def insertEntry (key : String) (value : α) : List (String × α) → List (String × α)
  | [] => [(key, value)]
  | entry :: rest =>
    if key < entry.1 then (key, value) :: entry :: rest
    else if entry.1 < key then entry :: insertEntry key value rest
    else (key, value) :: rest

/-- An entry after `insertEntry` is the new one or an old one. -/
theorem mem_insertEntry {key : String} {value : α} {entry : String × α}
    {entries : List (String × α)} (h : entry ∈ insertEntry key value entries) :
    entry = (key, value) ∨ entry ∈ entries := by
  induction entries with
  | nil => simpa [insertEntry] using h
  | cons head tail ih =>
    simp only [insertEntry] at h
    split at h
    · simpa using h
    · split at h
      · rcases List.mem_cons.mp h with h | h
        · exact .inr (h ▸ List.mem_cons_self)
        · exact (ih h).imp_right (List.mem_cons_of_mem head)
      · exact (List.mem_cons.mp h).imp_right (List.mem_cons_of_mem head)

/-- `insertEntry` keeps the ascending order. -/
theorem pairwise_insertEntry (key : String) (value : α) {entries : List (String × α)}
    (h : entries.Pairwise fun a b => a.1 < b.1) :
    (insertEntry key value entries).Pairwise fun a b => a.1 < b.1 := by
  induction entries with
  | nil => simp [insertEntry]
  | cons head tail ih =>
    rw [List.pairwise_cons] at h
    simp only [insertEntry]
    split
    · rename_i below
      refine List.pairwise_cons.mpr ⟨fun entry member => ?_, List.pairwise_cons.mpr h⟩
      rcases List.mem_cons.mp member with rfl | member
      · exact below
      · exact String.lt_trans below (h.1 entry member)
    · rename_i notBelow
      split
      · rename_i above
        refine List.pairwise_cons.mpr ⟨fun entry member => ?_, ih h.2⟩
        rcases mem_insertEntry member with rfl | member
        · exact above
        · exact h.1 entry member
      · rename_i notAbove
        have same : head.1 = key :=
          String.le_antisymm (String.not_lt.mp notBelow) (String.not_lt.mp notAbove)
        exact List.pairwise_cons.mpr ⟨fun entry member => same ▸ h.1 entry member, h.2⟩

/-- The map with `key` set to `value`. -/
def insert (map : TextMap α) (key : String) (value : α) : TextMap α :=
  ⟨insertEntry key value map.entries, pairwise_insertEntry key value map.sorted⟩

/-! ### Building maps -/

/-- The map with the given pairs set one after the other. -/
def insertMany (map : TextMap α) (pairs : List (String × α)) : TextMap α :=
  pairs.foldl (fun map pair => map.insert pair.1 pair.2) map

/-- The map of the given pairs; the last pair of a key wins. -/
def ofList (pairs : List (String × α)) : TextMap α := TextMap.empty.insertMany pairs

/-- The map `upper` laid over `lower`: a key of `upper` has its value there. -/
def union (lower upper : TextMap α) : TextMap α := lower.insertMany upper.entries

/-- The map with every value replaced by its image. -/
def map (f : String → α → β) (m : TextMap α) : TextMap β where
  entries := m.entries.map fun entry => (entry.1, f entry.1 entry.2)
  sorted := List.pairwise_map.mpr m.sorted

end TextMap

end ContractBindings
