import ContractBindings.Proofs.Naming.Fields
import ContractBindings.Struct.Resolve
import Mathlib.Data.List.Induction

/-!
# Searches for a name

A candidate that cannot be used gives way to the next numbered one, until one can be used. Such a
search has no bound of its own: `NameSearch.Round` is a single round of it, and `NameSearch.Rounds`
are any number of rounds. It ends all the same, since numbers behind a name stay behind the
identifier made from it, so that a round uses up one of the names that are taken:

* the search for the key of an entry has at most as many rounds as there are keys already;
* the search for the name of a field has at most one round more than there are fields before it.

Both end with the names that `Language.claimKeys` and `Language.fieldNames` give, where the number
of rounds is bounded from the outset (`searches_endWithin`).
-/

namespace ContractBindings

/-- **Search** for a name: the candidate at hand, and the number that the next one gets. -/
structure NameSearch where
  /-- The candidate. -/
  candidate : String
  /-- The number of the next candidate. -/
  number : Nat

namespace NameSearch

/-- **Round** of a search: a candidate that cannot be used gives way to the numbered one. -/
inductive Round (IsUsable : String → Prop) (numbered : Nat → String) :
    NameSearch → NameSearch → Prop
  /-- The candidate is replaced, and the number goes up. -/
  | replace {search : NameSearch} (h : ¬IsUsable search.candidate) :
      Round IsUsable numbered search ⟨numbered search.number, search.number + 1⟩

/-- A number of **rounds** from a start. -/
inductive Rounds (IsUsable : String → Prop) (numbered : Nat → String) (start : NameSearch) :
    Nat → NameSearch → Prop
  /-- There was no round. -/
  | none : Rounds IsUsable numbered start 0 start
  /-- There was one more round. -/
  | more {count : Nat} {before after : NameSearch} (h : Rounds IsUsable numbered start count before)
      (hround : Round IsUsable numbered before after) :
      Rounds IsUsable numbered start (count + 1) after

/-- **Bounded search**: it has at most `bound` rounds, so that it looks at one candidate more, and
it ends with `result`. -/
structure EndsWithin (IsUsable : String → Prop) (numbered : Nat → String) (start : NameSearch)
    (bound : Nat) (result : String) : Prop where
  /-- There are no more rounds than that. -/
  bounded : ∀ {count : Nat} {search : NameSearch},
    Rounds IsUsable numbered start count search → count ≤ bound
  /-- There is an end. -/
  ends : ∃ count search, Rounds IsUsable numbered start count search ∧ IsUsable search.candidate
  /-- Every end is at the result. -/
  eq_result : ∀ {count : Nat} {search : NameSearch},
    Rounds IsUsable numbered start count search → IsUsable search.candidate →
      search.candidate = result

/-! ### Candidates -/

/-- The candidate after the given number of rounds. -/
def candidateAfter (start : NameSearch) (numbered : Nat → String) : Nat → String
  | 0 => start.candidate
  | count + 1 => numbered (start.number + count)

section Candidates

variable {IsUsable : String → Prop} {numbered : Nat → String} {start search : NameSearch}
  {count bound : Nat}

/-- After some rounds the search is at the candidate of that number, and none before it could be
used. -/
theorem rounds_iff :
    Rounds IsUsable numbered start count search ↔
      search = ⟨start.candidateAfter numbered count, start.number + count⟩ ∧
        ∀ earlier < count, ¬IsUsable (start.candidateAfter numbered earlier) := by
  induction count generalizing search with
  | zero =>
    constructor
    · intro h
      cases h
      exact ⟨rfl, fun earlier hlt => absurd hlt (Nat.not_lt_zero earlier)⟩
    · rintro ⟨rfl, -⟩
      exact .none
  | succ count ih =>
    constructor
    · rintro (_ | ⟨hrounds, ⟨hunusable⟩⟩)
      obtain ⟨rfl, hearlier⟩ := ih.mp hrounds
      refine ⟨rfl, fun earlier hlt => ?_⟩
      rcases Nat.lt_succ_iff_lt_or_eq.mp hlt with hlt | rfl
      · exact hearlier earlier hlt
      · exact hunusable
    · rintro ⟨rfl, hearlier⟩
      have hrounds : Rounds IsUsable numbered start count
          ⟨start.candidateAfter numbered count, start.number + count⟩ :=
        ih.mpr ⟨rfl, fun earlier hlt => hearlier earlier (by omega)⟩
      exact .more hrounds (.replace (hearlier count (by omega)))

/-- A search ends with the first candidate that can be used. -/
theorem endsWithin_of_first (hcount : count ≤ bound)
    (hfirst : IsUsable (start.candidateAfter numbered count))
    (hearlier : ∀ earlier < count, ¬IsUsable (start.candidateAfter numbered earlier)) :
    EndsWithin IsUsable numbered start bound (start.candidateAfter numbered count) where
  bounded := by
    intro rounds search h
    obtain ⟨-, hunusable⟩ := rounds_iff.mp h
    by_contra hlt
    exact hunusable count (by omega) hfirst
  ends := ⟨count, _, rounds_iff.mpr ⟨rfl, hearlier⟩, hfirst⟩
  eq_result := by
    intro rounds search h hend
    obtain ⟨rfl, hunusable⟩ := rounds_iff.mp h
    -- neither of two ends comes before the other
    have hsame : rounds = count := by
      rcases Nat.lt_trichotomy rounds count with hlt | heq | hlt
      · exact absurd hend (hearlier rounds hlt)
      · exact heq
      · exact absurd hfirst (hunusable count hlt)
    rw [hsame]

theorem endsWithin_of_own (h : IsUsable start.candidate) :
    EndsWithin IsUsable numbered start bound start.candidate := by
  have hfirst : IsUsable (start.candidateAfter numbered 0) := h
  exact endsWithin_of_first (Nat.zero_le bound) hfirst fun count hlt =>
    absurd hlt (Nat.not_lt_zero count)

/-- Where the first candidate cannot be used, the search ends with the least number that can; it is
bounded by any such number. -/
theorem endsWithin_of_numbered {n j : Nat} (hown : ¬IsUsable start.candidate)
    (hbound : n < start.number + bound) (hlow : start.number ≤ n) (hn : IsUsable (numbered n))
    (hj : start.number ≤ j) (husable : IsUsable (numbered j))
    (hleast : ∀ i, start.number ≤ i → i < j → ¬IsUsable (numbered i)) :
    EndsWithin IsUsable numbered start bound (numbered j) := by
  have hle : j ≤ n := by
    by_contra hlt
    exact hleast n hlow (by omega) hn
  have hcandidate : start.candidateAfter numbered (j - start.number + 1) = numbered j := by
    rw [candidateAfter, Nat.add_sub_cancel' hj]
  rw [← hcandidate]
  refine endsWithin_of_first (by omega) (hcandidate ▸ husable) fun count hlt => ?_
  cases count with
  | zero => exact hown
  | succ m => exact hleast _ (by omega) (by omega)

end Candidates

end NameSearch

namespace Language

open NameSearch

variable (language : Language)

/-! ### Keys -/

/-- All candidates for a key make different names: the first one has no number behind it. -/
theorem methodName_candidateAfter_injective (name : String) : Function.Injective fun count =>
    language.methodName (candidateAfter ⟨name, 0⟩ (numberedKey name) count) := by
  have hlonger : ∀ n, language.methodName (numberedKey name n) ≠ language.methodName name := by
    intro n h
    rw [methodName_numberedKey, ← String.toList_inj, String.toList_append,
      List.append_right_eq_self, Nat.toString_eq_repr, Nat.toList_repr] at h
    exact decimalText_ne_nil n h
  intro i j h
  cases i with
  | zero =>
    cases j with
    | zero => rfl
    | succ j => exact absurd h.symm (hlonger _)
  | succ i =>
    cases j with
    | zero => exact absurd h (hlonger _)
    | succ j =>
      have hnumber := language.methodName_numberedKey_injective name h
      omega

/-- The search for a key behind others has at most as many rounds as there are others. -/
theorem endsWithin_freshKey (earlier : List String) (name : String) :
    EndsWithin (language.IsUnclaimed earlier) (numberedKey name) ⟨name, 0⟩ earlier.length
      (language.freshKey (earlier.map language.methodName) name) := by
  obtain ⟨hown, hnumbered⟩ := language.isRightfulKey_freshKey earlier name
  by_cases hname : language.IsUnclaimed earlier name
  · rw [hown hname]
    exact endsWithin_of_own hname
  · obtain ⟨j, hkey, hunclaimed, hleast⟩ := hnumbered hname
    obtain ⟨count, -, hcount, hfree⟩ := exists_notMem_of_injective
      (language.methodName_candidateAfter_injective name) (earlier.map language.methodName) 0
    rw [List.length_map, Nat.zero_add] at hcount
    replace hfree := isUnclaimed_iff.mpr (decide_eq_true hfree)
    rw [hkey]
    cases count with
    | zero => exact absurd hfree hname
    | succ n =>
      rw [candidateAfter, Nat.zero_add] at hfree
      exact endsWithin_of_numbered hname (by rw [Nat.zero_add]; omega) (Nat.zero_le n) hfree
        (Nat.zero_le j) hunclaimed fun i _ => hleast i

/-- **Claims** of keys for some names, one after the other, each by a search without a bound. -/
inductive Claims (language : Language) : List String → List String → Prop
  /-- No key was claimed. -/
  | none : Claims language [] []
  /-- One more key was claimed, and was found after some rounds. -/
  | claim {names keys : List String} {name : String} {count : Nat} {search : NameSearch}
      (h : Claims language names keys)
      (hrounds : Rounds (language.IsUnclaimed keys) (numberedKey name) ⟨name, 0⟩ count search)
      (hend : language.IsUnclaimed keys search.candidate) :
      Claims language (names ++ [name]) (keys ++ [search.candidate])

theorem claimKeys_concat (names : List String) (name : String) :
    language.claimKeys (names ++ [name]) = language.claimKeys names ++
      [language.freshKey ((language.claimKeys names).map language.methodName) name] :=
  language.claimKeysAfter_append [] names [name]

variable {language} in
/-- Claims give the keys for the names. -/
theorem Claims.eq_claimKeys {names keys : List String} (h : language.Claims names keys) :
    keys = language.claimKeys names := by
  induction h with
  | none => rfl
  | @claim names keys name count search _ hrounds hend ih =>
    obtain rfl := ih
    rw [claimKeys_concat, (language.endsWithin_freshKey _ name).eq_result hrounds hend]

/-- Keys can be claimed for any names. -/
theorem claims_claimKeys (names : List String) :
    language.Claims names (language.claimKeys names) := by
  induction names using List.reverseRecOn with
  | nil => exact .none
  | append_singleton names name ih =>
    have hsearch := language.endsWithin_freshKey (language.claimKeys names) name
    obtain ⟨count, search, hrounds, hend⟩ := hsearch.ends
    rw [claimKeys_concat, ← hsearch.eq_result hrounds hend]
    exact .claim ih hrounds hend

/-! ### Fields -/

theorem getElem?_fieldNames {raws : List String} {place : Nat} {raw : String}
    (h : raws[place]? = some raw) : (language.fieldNames raws)[place]? =
      some (language.freshField ((language.fieldNames raws).take place) raw) := by
  have hnames := language.getElem?_fieldNamesAfter [] raws place
  rwa [h, Option.map_some, List.nil_append] at hnames

/-- The search for the name of a field has at most one round more than there are names before. -/
theorem endsWithin_freshField (earlier : List String) (raw : String) :
    EndsWithin (fun name => name ≠ "" ∧ name ∉ earlier) language.numberedField
      ⟨language.fieldName raw, earlier.length⟩ (earlier.length + 1)
      (language.freshField earlier raw) := by
  obtain ⟨hown, hnumbered⟩ := language.isRightfulField_freshField earlier raw
  by_cases hraw : language.fieldName raw ≠ "" ∧ language.fieldName raw ∉ earlier
  · rw [hown hraw.1 hraw.2]
    exact endsWithin_of_own hraw
  · obtain ⟨j, hj, hname, hfree, hleast⟩ := hnumbered (by tauto)
    obtain ⟨n, hlow, hhigh, hnew⟩ :=
      exists_notMem_of_injective language.numberedField_injective earlier earlier.length
    rw [hname] at hfree ⊢
    exact endsWithin_of_numbered hraw (by dsimp only; omega) hlow
      ⟨language.numberedField_ne_empty n, hnew⟩ hj ⟨language.numberedField_ne_empty j, hfree⟩
      fun i hi hlt husable => husable.2 (hleast i hi hlt)

end Language

/-- **Searches end**. Digits behind a name stay behind the identifier made from it, so that
different numbers make different names. After any claims of keys the search for a further one has at
most as many rounds as there were claims, and the search for the name of a field has at most one
round more than there are fields before it. -/
theorem searches_endWithin (language : Language) :
    (∀ name digits : String, (∀ c ∈ digits.toList, c.isDigit = true) →
      capitalize (name ++ digits) = capitalize name ++ digits ∧
        decapitalize (name ++ digits) = decapitalize name ++ digits) ∧
    (∀ name, Function.Injective fun n => language.methodName (Language.numberedKey name n)) ∧
    (∀ names keys name, language.Claims names keys → ∃ key,
      NameSearch.EndsWithin (language.IsUnclaimed keys) (Language.numberedKey name) ⟨name, 0⟩
        names.length key ∧
      language.claimKeys (names ++ [name]) = keys ++ [key]) ∧
    ∀ (fields : TupleFields) (place : Nat) (raw : String) (type : AbiType),
      fields[place]? = some (raw, type) → ∃ name,
        NameSearch.EndsWithin
          (fun name => name ≠ "" ∧ name ∉ (language.fieldNames (fields.map (·.1))).take place)
          language.numberedField ⟨language.fieldName raw, place⟩ (place + 1) name ∧
        (language.fieldNames (fields.map (·.1)))[place]? = some name := by
  refine ⟨fun name digits h => ⟨Language.golang.identifier_append_digits name digits h,
    Language.java.identifier_append_digits name digits h⟩,
    language.methodName_numberedKey_injective, fun names keys name h => ?_,
    fun fields place raw type h => ?_⟩
  · obtain rfl := h.eq_claimKeys
    have hsearch := language.endsWithin_freshKey (language.claimKeys names) name
    rw [language.length_claimKeys] at hsearch
    exact ⟨_, hsearch, language.claimKeys_concat names name⟩
  · have hraw : (fields.map (·.1))[place]? = some raw := by
      rw [List.getElem?_map, h, Option.map_some]
    have hlength : ((language.fieldNames (fields.map (·.1))).take place).length = place := by
      have hlt := (List.getElem?_eq_some_iff.mp hraw).1
      rw [List.length_take, language.length_fieldNames]
      omega
    have hsearch :=
      language.endsWithin_freshField ((language.fieldNames (fields.map (·.1))).take place) raw
    rw [hlength] at hsearch
    exact ⟨_, hsearch, language.getElem?_fieldNames hraw⟩

/-- A third spelling of a name gets the number after that of the second one, and a field whose place
has been taken by another field's own name is moved up. -/
theorem searches_endWithin_spellings :
    capitalize "fee__007" = capitalize "fee__" ++ "007" ∧
    NameSearch.EndsWithin (Language.golang.IsUnclaimed ["foo", "Foo0"])
      (Language.numberedKey "_foo") ⟨"_foo", 0⟩ 2 "_foo1" ∧
    NameSearch.EndsWithin (fun name => name ≠ "" ∧ name ∉ ["Field2", "Field1"])
      Language.golang.numberedField ⟨"", 2⟩ 3 "Field3" := by
  obtain ⟨hdigits, -, hkeys, hfields⟩ := searches_endWithin .golang
  have hclaimed : Language.golang.Claims ["foo", "Foo"] ["foo", "Foo0"] :=
    Language.golang.claims_claimKeys ["foo", "Foo"]
  obtain ⟨key, hsearch, hkey⟩ := hkeys ["foo", "Foo"] ["foo", "Foo0"] "_foo" hclaimed
  obtain ⟨name, hfieldSearch, hname⟩ :=
    hfields [("field2", .elementary .bool), ("", .elementary .bool), ("", .elementary .bool)]
      2 "" _ rfl
  have hkeyText : Language.golang.claimKeys ["foo", "Foo", "_foo"] = ["foo", "Foo0", "_foo1"] := rfl
  have hnumeral : ∀ c ∈ "007".toList, c.isDigit = true := by
    intro c hc
    have hc : c ∈ ['0', '0', '7'] := hc
    simp only [List.mem_cons, List.not_mem_nil, or_false] at hc
    rcases hc with rfl | rfl | rfl <;> rfl
  refine ⟨(hdigits "fee__" "007" hnumeral).1, ?_, ?_⟩
  · obtain rfl : "_foo1" = key := by simpa using hkeyText.symm.trans hkey
    exact hsearch
  · obtain rfl : "Field3" = name := Option.some.inj hname
    exact hfieldSearch

end ContractBindings
