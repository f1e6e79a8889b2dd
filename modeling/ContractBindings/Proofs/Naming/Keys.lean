import ContractBindings.Language.Names
import ContractBindings.Text.Numeral
import Mathlib.Data.List.Basic
import Mathlib.Data.List.Nodup
import Mathlib.Data.List.Perm.Subperm

/-!
# Keys

No two entries of a namespace get the same key, and not even the same name in the language
(`nodup_claimKeys`). Numbers behind a name pass unchanged into the identifier made from it
(`Language.identifier_append_digits`), so different numbers make different identifiers. Among
more numbers than there are taken names one is therefore free, and the search finds it
(`isFreeKey_freshKey`). It is the least one, so that the key of an entry is determined by the keys
before it (`isRightfulKey_claimKeys`).
-/

namespace ContractBindings

/-! ### Numbers behind names -/

theorem isDigit_of_mem_toString {n : Nat} {c : Char} (hc : c ∈ (toString n).toList) :
    c.isDigit = true := by
  rw [Nat.toString_eq_repr, Nat.toList_repr] at hc
  exact isDigit_of_mem_decimalText hc

/-- A name with a number behind it tells the number. -/
theorem append_toString_injective (name : String) :
    Function.Injective fun n : Nat => name ++ toString n := by
  intro m n h
  have hnumeral := congrArg String.toList ((String.append_right_inj name).mp h)
  rw [Nat.toString_eq_repr, Nat.toString_eq_repr, Nat.toList_repr, Nat.toList_repr] at hnumeral
  exact decimalText_injective hnumeral

/-- Of the numbers from `start` on, as many as there are names taken and one more, one makes a name
that is not taken. -/
theorem exists_notMem_of_injective {f : Nat → String} (hf : Function.Injective f)
    (taken : List String) (start : Nat) :
    ∃ n, start ≤ n ∧ n ≤ start + taken.length ∧ f n ∉ taken := by
  by_contra! hnone
  -- otherwise there are more names in use than taken
  have hsubset : (List.range' start (taken.length + 1)).map f ⊆ taken := by
    intro name hmem
    obtain ⟨n, hn, rfl⟩ := List.mem_map.mp hmem
    rw [List.mem_range'_1] at hn
    exact hnone n hn.1 (by omega)
  have hnodup := (List.nodup_range' (s := start) (n := taken.length + 1)).map hf
  have hle := (List.subperm_of_subset hnodup hsubset).length_le
  rw [List.length_map, List.length_range'] at hle
  omega

/-! ### Digits in identifiers -/

/-- A digit has no capital form. -/
theorem upperChar_of_isDigit {c : Char} (h : c.isDigit = true) : upperChar c = [c] := by
  obtain ⟨-, hhigh⟩ := toNat_of_isDigit h
  have hsmall : isSmall c = false := by
    simp only [isSmall, Bool.and_eq_false_iff, decide_eq_false_iff_not]
    refine .inl fun hle => ?_
    have : 97 ≤ c.toNat := hle
    omega
  rw [upperChar, if_pos (by omega), hsmall]
  rfl

/-- A digit has no small form. -/
theorem lowerChar_of_isDigit {c : Char} (h : c.isDigit = true) : lowerChar c = [c] := by
  obtain ⟨-, hhigh⟩ := toNat_of_isDigit h
  have hcapital : isCapital c = false := by
    simp only [isCapital, Bool.and_eq_false_iff, decide_eq_false_iff_not]
    refine .inl fun hle => ?_
    have : 65 ≤ c.toNat := hle
    omega
  rw [lowerChar, if_pos (by omega), hcapital]
  rfl

theorem isUnderscore_of_isDigit {c : Char} (h : c.isDigit = true) : isUnderscore c = false := by
  refine beq_eq_false_iff_ne.mpr ?_
  rintro rfl
  exact absurd h (by decide)

section Digits

variable {digits : List Char} (h : ∀ c ∈ digits, c.isDigit = true)

include h

theorem joinWords_digits (raise : Bool) : joinWords isUnderscore raise digits = digits := by
  -- a capital form may be due at the first digit, which has none
  induction digits generalizing raise with
  | nil => rfl
  | cons c rest ih =>
    have hc := h c List.mem_cons_self
    have himage : (if raise then upperChar c else [c]) = [c] := by
      rw [upperChar_of_isDigit hc, ite_self]
    rw [joinWords, isUnderscore_of_isDigit hc, if_neg Bool.false_ne_true, himage,
      ih fun d hd => h d (List.mem_cons_of_mem c hd), List.singleton_append]

/-- Joining the words of a name leaves digits behind it as they are. -/
theorem joinWords_append_digits (raise : Bool) (name : List Char) :
    joinWords isUnderscore raise (name ++ digits) =
      joinWords isUnderscore raise name ++ digits := by
  induction name generalizing raise with
  | nil => rw [List.nil_append, joinWords_digits h, joinWords, List.nil_append]
  | cons c rest ih =>
    rw [List.cons_append, joinWords, joinWords]
    split
    · exact ih true
    · rw [ih false, List.append_assoc]

theorem camelWords_append_digits (name : List Char) :
    camelWords (name ++ digits) = camelWords name ++ digits := by
  have hdrop : (name ++ digits).dropWhile isUnderscore =
      name.dropWhile isUnderscore ++ digits := by
    rw [List.dropWhile_append]
    split
    · rename_i hempty
      rw [List.isEmpty_iff.mp hempty, List.nil_append]
      cases digits with
      | nil => rfl
      | cons c rest =>
        rw [List.dropWhile_cons_of_neg]
        rw [isUnderscore_of_isDigit (h c List.mem_cons_self)]
        exact Bool.false_ne_true
    · rfl
  rw [camelWords, hdrop, joinWords_append_digits h, camelWords]

theorem mapFirst_append_digits {f : Char → List Char}
    (hf : ∀ c, c.isDigit = true → f c = [c]) (name : List Char) :
    mapFirst f (name ++ digits) = mapFirst f name ++ digits := by
  cases name with
  | cons c rest => rw [List.cons_append, mapFirst, mapFirst, List.append_assoc]
  | nil =>
    cases digits with
    | nil => rfl
    | cons c rest =>
      rw [List.nil_append, mapFirst, mapFirst, hf c (h c List.mem_cons_self), List.nil_append,
        List.singleton_append]

end Digits

namespace Language

/-- Digits behind a name stay behind the identifier made from it. -/
theorem identifier_append_digits (language : Language) (name digits : String)
    (h : ∀ c ∈ digits.toList, c.isDigit = true) :
    language.identifier (name ++ digits) = language.identifier name ++ digits := by
  cases language with
  | golang =>
    rw [identifier, capitalize, capitalize, String.toList_append, camelWords_append_digits h,
      mapFirst_append_digits h fun _ => upperChar_of_isDigit, String.ofList_append,
      String.ofList_toList]
  | java =>
    rw [identifier, decapitalize, decapitalize, String.toList_append, camelWords_append_digits h,
      mapFirst_append_digits h fun _ => lowerChar_of_isDigit, String.ofList_append,
      String.ofList_toList]

/-! ### Fresh keys -/

theorem methodName_numberedKey (language : Language) (name : String) (n : Nat) :
    language.methodName (numberedKey name n) = language.methodName name ++ toString n :=
  language.identifier_append_digits name _ fun _ => isDigit_of_mem_toString

/-- Keys with different numbers make different names. -/
theorem methodName_numberedKey_injective (language : Language) (name : String) :
    Function.Injective fun n => language.methodName (numberedKey name n) := by
  intro m n h
  simp only [methodName_numberedKey] at h
  exact append_toString_injective _ h

/-- Of the numbers up to that of the names taken, one makes a free key. -/
theorem exists_isFreeKey_numberedKey (language : Language) (taken : List String) (name : String) :
    ∃ n ≤ taken.length, language.isFreeKey taken (numberedKey name n) = true := by
  obtain ⟨n, -, hn, hfree⟩ :=
    exists_notMem_of_injective (language.methodName_numberedKey_injective name) taken 0
  exact ⟨n, by omega, by simpa [isFreeKey] using hfree⟩

/-- A fresh key is free. -/
theorem isFreeKey_freshKey (language : Language) (taken : List String) (name : String) :
    language.isFreeKey taken (language.freshKey taken name) = true := by
  rw [freshKey]
  split
  · assumption
  · obtain ⟨n, hn, hfree⟩ := language.exists_isFreeKey_numberedKey taken name
    exact @passes_leastFrom (fun n => language.isFreeKey taken (numberedKey name n)) 0
      taken.length n (Nat.zero_le n) (by omega) hfree

/-! ### Claimed keys -/

/-- The names made from the claimed keys differ from each other and from those taken. -/
theorem nodup_claimKeysAfter (language : Language) {taken : List String} (names : List String)
    (h : taken.Nodup) :
    (taken ++ (language.claimKeysAfter taken names).map language.methodName).Nodup := by
  -- on the entries: each adds its name to those taken, which differ from each other throughout
  induction names generalizing taken with
  | nil => simpa [claimKeysAfter] using h
  | cons name rest ih =>
    have hfree : language.methodName (language.freshKey taken name) ∉ taken := by
      simpa [isFreeKey] using language.isFreeKey_freshKey taken name
    have htaken : (taken ++ [language.methodName (language.freshKey taken name)]).Nodup :=
      List.nodup_append.mpr ⟨h, List.nodup_singleton _, by
        rintro identifier hmem _ hself rfl
        exact hfree (List.mem_singleton.mp hself ▸ hmem)⟩
    simpa [claimKeysAfter] using ih htaken

/-- **No two entries** of a namespace get the same name. -/
theorem nodup_map_claimKeys (language : Language) (names : List String) :
    ((language.claimKeys names).map language.methodName).Nodup :=
  language.nodup_claimKeysAfter names List.nodup_nil

theorem nodup_claimKeys (language : Language) (names : List String) :
    (language.claimKeys names).Nodup :=
  (language.nodup_map_claimKeys names).of_map _

theorem length_claimKeysAfter (language : Language) (taken names : List String) :
    (language.claimKeysAfter taken names).length = names.length := by
  induction names generalizing taken with
  | nil => rfl
  | cons name rest ih => rw [claimKeysAfter, List.length_cons, ih, List.length_cons]

/-- Every entry gets a key. -/
@[simp]
theorem length_claimKeys (language : Language) (names : List String) :
    (language.claimKeys names).length = names.length :=
  language.length_claimKeysAfter [] names

/-- The keys of further entries are claimed behind those of the first ones. -/
theorem claimKeysAfter_append (language : Language) (taken names others : List String) :
    language.claimKeysAfter taken (names ++ others) = language.claimKeysAfter taken names ++
      language.claimKeysAfter
        (taken ++ (language.claimKeysAfter taken names).map language.methodName) others := by
  induction names generalizing taken with
  | nil => simp [claimKeysAfter]
  | cons name rest ih =>
    rw [List.cons_append, claimKeysAfter, claimKeysAfter, ih, List.map_cons, List.cons_append,
      List.append_assoc, List.singleton_append]

/-- Further entries leave the keys of the first ones as they are. -/
theorem claimKeys_prefix_append (language : Language) (names others : List String) :
    language.claimKeys names <+: language.claimKeys (names ++ others) :=
  ⟨_, (language.claimKeysAfter_append [] names others).symm⟩

/-! ### The key of an entry -/

/-- **Unclaimed** key: neither it nor the name made from it is one of an earlier entry. -/
def IsUnclaimed (language : Language) (earlier : List String) (key : String) : Prop :=
  key ∉ earlier ∧ language.methodName key ∉ earlier.map language.methodName

/-- It is enough to look at the names, since a key that is there has made its name. -/
theorem isUnclaimed_iff {language : Language} {earlier : List String} {key : String} :
    language.IsUnclaimed earlier key ↔
      language.isFreeKey (earlier.map language.methodName) key = true := by
  rw [IsUnclaimed, isFreeKey, decide_eq_true_eq]
  exact and_iff_right_of_imp fun hname hkey => hname (List.mem_map_of_mem hkey)

/-- **Rightful** key of an entry behind others: its own name if that is unclaimed, and otherwise
the name with the least number for which that is so. -/
structure IsRightfulKey (language : Language) (earlier : List String) (name key : String) :
    Prop where
  /-- An unclaimed name is the key. -/
  own : language.IsUnclaimed earlier name → key = name
  /-- Otherwise a number is put behind the name. -/
  numbered : ¬language.IsUnclaimed earlier name → ∃ n, key = numberedKey name n ∧
    language.IsUnclaimed earlier (numberedKey name n) ∧
    ∀ m < n, ¬language.IsUnclaimed earlier (numberedKey name m)

theorem isRightfulKey_freshKey (language : Language) (earlier : List String) (name : String) :
    language.IsRightfulKey earlier name
      (language.freshKey (earlier.map language.methodName) name) where
  own := by
    intro hname
    rw [freshKey, if_pos (isUnclaimed_iff.mp hname)]
  numbered := by
    intro hname
    have hfree := language.isFreeKey_freshKey (earlier.map language.methodName) name
    rw [freshKey, if_neg (fun h => hname (isUnclaimed_iff.mpr h))] at hfree ⊢
    refine ⟨_, rfl, isUnclaimed_iff.mpr hfree, fun m hm hunclaimed => ?_⟩
    have hfails := leastFrom_minimal (Nat.zero_le m) hm
    exact absurd (isUnclaimed_iff.mp hunclaimed) (by simpa using hfails)

/-- Every entry gets its rightful key, where `earlier` are the keys before all of them. -/
theorem isRightfulKey_claimKeysAfter (language : Language) (earlier : List String)
    {names : List String} {place : Nat} {name key : String} (hname : names[place]? = some name)
    (hkey : (language.claimKeysAfter (earlier.map language.methodName) names)[place]? = some key) :
    language.IsRightfulKey
      (earlier ++ (language.claimKeysAfter (earlier.map language.methodName) names).take place)
      name key := by
  induction names generalizing earlier place with
  | nil => cases hname
  | cons first rest ih =>
    rw [claimKeysAfter] at hkey ⊢
    cases place with
    | zero =>
      obtain rfl := Option.some.inj hname
      obtain rfl := Option.some.inj hkey
      rw [List.take_zero, List.append_nil]
      exact language.isRightfulKey_freshKey earlier first
    | succ place =>
      have htaken : earlier.map language.methodName ++
          [language.methodName (language.freshKey (earlier.map language.methodName) first)] =
          (earlier ++ [language.freshKey (earlier.map language.methodName) first]).map
            language.methodName := by
        rw [List.map_append, List.map_singleton]
      rw [List.getElem?_cons_succ] at hname hkey
      rw [htaken] at hkey ⊢
      rw [List.take_succ_cons, List.append_cons]
      exact ih _ hname hkey

/-- **Every entry gets its rightful key.** -/
theorem isRightfulKey_claimKeys (language : Language) {names : List String} {place : Nat}
    {name key : String} (hname : names[place]? = some name)
    (hkey : (language.claimKeys names)[place]? = some key) :
    language.IsRightfulKey ((language.claimKeys names).take place) name key :=
  language.isRightfulKey_claimKeysAfter [] hname hkey

end Language

end ContractBindings
