import ContractBindings.Json.Printer
import ContractBindings.Text.Blank
import ContractBindings.Text.Numeral
import Mathlib.Data.List.Basic

/-!
# The strings of a JSON value

`Json.strings` lists the strings of a value: its texts, and the names in its objects. They are
the only part of the compact text in which a blank or a backslash can stand. So if no string has
to be escaped, the compact text has no backslash (`Json.notMem_chars_of_plain`), and leaving out
its blanks is the same as leaving them out of the strings (`Json.chars_withoutBlanks`).
-/

namespace ContractBindings

namespace Json

/-- Induction over JSON values: a container has the property if all values in it do. -/
theorem induct {P : Json → Prop} (null : P .null) (bool : ∀ value, P (.bool value))
    (number : ∀ value, P (.number value)) (string : ∀ text, P (.string text))
    (array : ∀ items, (∀ item ∈ items, P item) → P (.array items))
    (object : ∀ members : List (String × Json), (∀ member ∈ members, P member.2) →
      P (.object members)) : ∀ value, P value :=
  Json.rec (motive_2 := fun items => ∀ item ∈ items, P item)
    (motive_3 := fun members => ∀ member ∈ members, P member.2)
    (motive_4 := fun member => P member.2) null bool number string array object (by simp)
    (fun head tail hhead htail => by simpa using ⟨hhead, htail⟩) (by simp)
    (fun head tail hhead htail => by simpa using ⟨hhead, by simpa using htail⟩)
    (fun _ _ h => h)

/-! ### Comparison -/

mutual

/-- Whether two values without floating-point numbers are the same. -/
def same : Json → Json → Bool
  | .null, .null => true
  | .bool a, .bool b => a == b
  | .number (.integer a), .number (.integer b) => a == b
  | .string a, .string b => a == b
  | .array items, .array others => sameItems items others
  | .object members, .object others => sameMembers members others
  | _, _ => false

/-- Whether the items of two arrays are the same. -/
def sameItems : List Json → List Json → Bool
  | [], [] => true
  | item :: rest, other :: others => same item other && sameItems rest others
  | _, _ => false

/-- Whether the members of two objects are the same. -/
def sameMembers : List (String × Json) → List (String × Json) → Bool
  | [], [] => true
  | (name, value) :: rest, (other, second) :: others =>
    name == other && same value second && sameMembers rest others
  | _, _ => false

end

theorem eq_of_sameItems {items others : List Json}
    (hitems : ∀ item ∈ items, ∀ other, same item other = true → item = other)
    (h : sameItems items others = true) : items = others := by
  induction items generalizing others with
  | nil => cases others <;> simp_all [sameItems]
  | cons item rest ih =>
    cases others with
    | nil => exact absurd h (by simp [sameItems])
    | cons other others =>
      rw [List.forall_mem_cons] at hitems
      rw [sameItems, Bool.and_eq_true_iff] at h
      rw [hitems.1 other h.1, ih hitems.2 h.2]

theorem eq_of_sameMembers {members others : List (String × Json)}
    (hmembers : ∀ member ∈ members, ∀ other, same member.2 other = true → member.2 = other)
    (h : sameMembers members others = true) : members = others := by
  induction members generalizing others with
  | nil => cases others <;> simp_all [sameMembers]
  | cons member rest ih =>
    cases others with
    | nil => exact absurd h (by simp [sameMembers])
    | cons other others =>
      rw [List.forall_mem_cons] at hmembers
      rw [sameMembers, Bool.and_eq_true_iff, Bool.and_eq_true_iff, beq_iff_eq] at h
      obtain ⟨⟨hname, hvalue⟩, hrest⟩ := h
      rw [ih hmembers.2 hrest, Prod.ext hname (hmembers.1 _ hvalue)]

theorem eq_of_same {value other : Json} (h : same value other = true) : value = other := by
  induction value using Json.induct generalizing other with
  | null => cases other <;> simp_all [same]
  | bool b => cases other <;> simp_all [same]
  | number n =>
    cases other with
    | number m => cases n <;> cases m <;> simp_all [same]
    | _ => cases n <;> exact absurd h (by simp [same])
  | string text => cases other <;> simp_all [same]
  | array items ih =>
    cases other with
    | array others => rw [eq_of_sameItems (fun item hitem _ => ih item hitem) h]
    | _ => exact absurd h (by simp [same])
  | object members ih =>
    cases other with
    | object others => rw [eq_of_sameMembers (fun member hmember _ => ih member hmember) h]
    | _ => exact absurd h (by simp [same])

/-! ### Strings -/

mutual

/-- The strings of a value: its texts and the names of members. -/
def strings : Json → List String
  | .string text => [text]
  | .array items => itemStrings items
  | .object members => memberStrings members
  | _ => []

/-- The strings of the items of an array. -/
def itemStrings : List Json → List String
  | [] => []
  | item :: rest => strings item ++ itemStrings rest

/-- The strings of the members of an object. -/
def memberStrings : List (String × Json) → List String
  | [] => []
  | (name, value) :: rest => name :: strings value ++ memberStrings rest

end

mutual

/-- A value with an image in the place of every string. -/
def mapStrings (f : String → String) : Json → Json
  | .string text => .string (f text)
  | .array items => .array (mapItems f items)
  | .object members => .object (mapMembers f members)
  | value => value

/-- The items of an array with an image in the place of every string. -/
def mapItems (f : String → String) : List Json → List Json
  | [] => []
  | item :: rest => mapStrings f item :: mapItems f rest

/-- The members of an object with an image in the place of every string. -/
def mapMembers (f : String → String) : List (String × Json) → List (String × Json)
  | [] => []
  | (name, value) :: rest => (f name, mapStrings f value) :: mapMembers f rest

end

theorem mem_strings_array {items : List Json} {text : String} :
    text ∈ (array items).strings ↔ ∃ item ∈ items, text ∈ item.strings := by
  rw [strings]
  induction items with
  | nil => simp [itemStrings]
  | cons item rest ih => simp [itemStrings, ih]

theorem mem_strings_object {members : List (String × Json)} {text : String} :
    text ∈ (object members).strings ↔
      ∃ member ∈ members, text = member.1 ∨ text ∈ member.2.strings := by
  rw [strings]
  induction members with
  | nil => simp [memberStrings]
  | cons member rest ih => simp [memberStrings, ih, or_assoc]

theorem mapItems_eq_map (f : String → String) (items : List Json) :
    mapItems f items = items.map (mapStrings f) := by
  induction items with
  | nil => rfl
  | cons item rest ih => rw [mapItems, ih, List.map_cons]

theorem mapMembers_eq_map (f : String → String) (members : List (String × Json)) :
    mapMembers f members = members.map fun member => (f member.1, mapStrings f member.2) := by
  induction members with
  | nil => rfl
  | cons member rest ih => rw [mapMembers, ih, List.map_cons]

/-- A function that keeps the strings of a value keeps the value. -/
theorem mapStrings_eq_self {f : String → String} {value : Json}
    (h : ∀ text ∈ value.strings, f text = text) : value.mapStrings f = value := by
  induction value using Json.induct with
  | null | bool | number => rfl
  | string text => rw [mapStrings, h text (List.mem_singleton_self text)]
  | array items ih =>
    have hitems : items.map (mapStrings f) = items.map id := List.map_congr_left fun item hitem =>
      ih item hitem fun text htext => h text (mem_strings_array.mpr ⟨item, hitem, htext⟩)
    rw [mapStrings, mapItems_eq_map, hitems, List.map_id]
  | object members ih =>
    have hmembers : members.map (fun member => (f member.1, mapStrings f member.2)) =
        members.map id := by
      refine List.map_congr_left fun member hmember => Prod.ext ?_ ?_
      · exact h _ (mem_strings_object.mpr ⟨member, hmember, .inl rfl⟩)
      · exact ih member hmember fun text htext =>
          h text (mem_strings_object.mpr ⟨member, hmember, .inr htext⟩)
    rw [mapStrings, mapMembers_eq_map, hmembers, List.map_id]

/-! ### The characters of a number -/

/-- A character that can stand in a number. -/
def isNumberChar (c : Char) : Bool := c.isDigit || "-+.enul".toList.contains c

theorem isNumberChar_of_isDigit {c : Char} (h : c.isDigit = true) : isNumberChar c = true := by
  rw [isNumberChar, h, Bool.true_or]

theorem isNumberChar_of_mem_decimalText {n : Nat} {c : Char} (h : c ∈ decimalText n) :
    isNumberChar c = true :=
  isNumberChar_of_isDigit (isDigit_of_mem_decimalText h)

/-- A shortest decimal consists of digits. -/
theorem isDigit_of_mem_shortest {x : Dyadic} {c : Char} (h : c ∈ x.shortest.digits) :
    c.isDigit = true := by
  rw [Dyadic.shortest] at h
  dsimp only at h
  split at h
  · rw [List.mem_singleton.mp h]
    rfl
  · have hmem := (List.dropWhile_sublist _).subset (List.mem_reverse.mp h)
    exact isDigit_of_mem_decimalText (List.mem_reverse.mp hmem)

/-- A decimal is written with digits, a point, a sign and the letter of the exponent. -/
theorem isNumberChar_of_mem_jsonText {d : Decimal} (hd : ∀ c ∈ d.digits, c.isDigit = true) :
    ∀ c ∈ d.jsonText, isNumberChar c = true := by
  have hdigits : ∀ c ∈ d.digits, isNumberChar c = true := fun c hc =>
    isNumberChar_of_isDigit (hd c hc)
  have hzeros : ∀ count, ∀ c ∈ List.replicate count '0', isNumberChar c = true := fun count c hc =>
    (List.eq_of_mem_replicate hc) ▸ rfl
  rw [Decimal.jsonText]
  split
  · -- a point and zeros before the digits
    simp only [List.cons_append, List.forall_mem_cons, List.forall_mem_append]
    exact ⟨rfl, rfl, hzeros _, hdigits⟩
  · split
    · -- the point among the digits or behind them
      simp only [List.forall_mem_cons, List.forall_mem_append]
      refine ⟨⟨fun c hc => hdigits c (List.mem_of_mem_take hc), hzeros _⟩, rfl, ?_⟩
      split
      · exact List.forall_mem_singleton.mpr rfl
      · exact fun c hc => hdigits c (List.mem_of_mem_drop hc)
    · -- an exponent
      simp only [List.forall_mem_cons, List.forall_mem_append]
      refine ⟨?_, rfl, by split <;> rfl, fun c => isNumberChar_of_mem_decimalText⟩
      split
      · rename_i first second rest hshape
        simp only [hshape, List.forall_mem_cons] at hdigits ⊢
        exact ⟨hdigits.1, rfl, hdigits.2⟩
      · exact hdigits

theorem isNumberChar_of_mem_text (value : JsonNumber) :
    ∀ c ∈ value.text, isNumberChar c = true := by
  have hminus : ∀ c ∈ ['-'], isNumberChar c = true := List.all_eq_true.mp rfl
  cases value with
  | integer value =>
    rw [JsonNumber.text, List.forall_mem_append]
    refine ⟨?_, fun c => isNumberChar_of_mem_decimalText⟩
    split
    · exact hminus
    · exact List.forall_mem_nil _
  | float value =>
    have hsign : ∀ c ∈ (if value.toBits.toNat < Nat.pow 2 63 then [] else ['-']),
        isNumberChar c = true := by
      split
      · exact List.forall_mem_nil _
      · exact hminus
    rw [JsonNumber.text, floatText]
    split
    · exact List.all_eq_true.mp (by decide)
    · split
      · exact List.forall_mem_append.mpr ⟨hsign, List.all_eq_true.mp (by decide)⟩
      · exact List.forall_mem_append.mpr
          ⟨hsign, isNumberChar_of_mem_jsonText fun c => isDigit_of_mem_shortest⟩

/-- No character of a number is a blank or a backslash. -/
theorem of_isNumberChar {c : Char} (h : isNumberChar c = true) :
    isBlank c = false ∧ c ≠ '\\' := by
  rcases Bool.or_eq_true_iff.mp h with h | h
  · have hdigit := toNat_of_isDigit h
    refine ⟨?_, ?_⟩
    · simp [isBlank]
      omega
    · rintro rfl
      exact absurd h (by decide)
  · have hmem : c ∈ "-+.enul".toList := by simpa using h
    have hall : "-+.enul".toList.all (fun c => !isBlank c && c != '\\') = true := by decide
    simpa using List.all_eq_true.mp hall c hmem

/-! ### Plain values -/

/-- **Plain** text: no character of it has to be escaped in a JSON string. -/
def IsPlainText (text : String) : Prop :=
  ∀ c ∈ text.toList, c ≠ '"' ∧ c ≠ '\\' ∧ 0x20 ≤ c.toNat

/-- **Plain** value: all its strings are plain. -/
def Plain (value : Json) : Prop := ∀ text ∈ value.strings, IsPlainText text

/-- Value whose strings have no blanks. -/
def Blankless (value : Json) : Prop :=
  ∀ text ∈ value.strings, ∀ c ∈ text.toList, isBlank c = false

instance (value : Json) : Decidable value.Plain :=
  decidable_of_iff (value.strings.all fun text => text.toList.all fun c =>
    decide (c ≠ '"' ∧ c ≠ '\\' ∧ 0x20 ≤ c.toNat)) (by simp [Plain, IsPlainText])

instance (value : Json) : Decidable value.Blankless :=
  decidable_of_iff (value.strings.all fun text => text.toList.all fun c => !isBlank c)
    (by simp [Blankless])

/-- A value whose strings have lost their blanks. -/
def withoutBlanks (value : Json) : Json :=
  value.mapStrings fun text => .ofList (dropBlanks text.toList)

theorem dropBlanks_append (text others : List Char) :
    dropBlanks (text ++ others) = dropBlanks text ++ dropBlanks others :=
  List.filter_append _ _

theorem dropBlanks_cons {c : Char} (h : isBlank c = false) (text : List Char) :
    dropBlanks (c :: text) = c :: dropBlanks text :=
  List.filter_cons_of_pos (by simp [h])

theorem dropBlanks_eq_self {text : List Char} (h : ∀ c ∈ text, isBlank c = false) :
    dropBlanks text = text :=
  List.filter_eq_self.mpr fun c hc => by simp [h c hc]

/-- A value without blanks in its strings loses nothing. -/
theorem withoutBlanks_eq_self {value : Json} (h : value.Blankless) :
    value.withoutBlanks = value :=
  mapStrings_eq_self fun text htext => by
    rw [dropBlanks_eq_self (h text htext), String.ofList_toList]

theorem itemChars_cons (item : Json) (rest : List Json) :
    itemChars (item :: rest) =
      item.chars ++ if rest = [] then [] else ',' :: itemChars rest := by
  cases rest with
  | nil => simp [itemChars]
  | cons next rest => rw [itemChars, if_neg (List.cons_ne_nil _ _)]

theorem memberChars_cons (member : String × Json) (rest : List (String × Json)) :
    memberChars (member :: rest) =
      jsonStringText member.1 ++ ':' :: (member.2.chars ++
        if rest = [] then [] else ',' :: memberChars rest) := by
  cases rest with
  | nil => simp [memberChars]
  | cons next rest => simp [memberChars]

/-- A plain text stands between its quotes as it is. -/
theorem jsonStringText_of_plain {text : String} (h : IsPlainText text) :
    jsonStringText text = '"' :: (text.toList ++ ['"']) := by
  have hescape : ∀ c ∈ text.toList, escapeJsonChar c = [c] := by
    intro c hc
    obtain ⟨hquote, hbackslash, hcontrol⟩ := h c hc
    have hne : ∀ other : Char, other.toNat < 0x20 → c ≠ other := by
      rintro other hother rfl
      omega
    rw [escapeJsonChar, if_neg hquote, if_neg hbackslash, if_neg (hne '\n' (by decide)),
      if_neg (hne '\r' (by decide)), if_neg (hne '\t' (by decide)), if_neg (by omega),
      if_neg (by omega), if_neg (by omega)]
  rw [jsonStringText, List.flatMap, List.map_congr_left hescape, ← List.flatMap,
    List.flatMap_singleton', List.cons_append]

/-- A plain text without its blanks is plain. -/
theorem IsPlainText.dropBlanks {text : String} (h : IsPlainText text) :
    IsPlainText (.ofList (dropBlanks text.toList)) := by
  intro c hc
  rw [String.toList_ofList] at hc
  exact h c (List.mem_filter.mp hc).1

theorem jsonStringText_dropBlanks {text : String} (h : IsPlainText text) :
    jsonStringText (.ofList (dropBlanks text.toList)) = dropBlanks (jsonStringText text) := by
  rw [jsonStringText_of_plain h, jsonStringText_of_plain h.dropBlanks, String.toList_ofList,
    dropBlanks_cons rfl, dropBlanks_append]
  rfl

theorem itemChars_withoutBlanks {items : List Json}
    (h : ∀ item ∈ items, item.withoutBlanks.chars = dropBlanks item.chars) :
    itemChars (items.map withoutBlanks) = dropBlanks (itemChars items) := by
  induction items with
  | nil => rfl
  | cons item rest ih =>
    rw [List.forall_mem_cons] at h
    rw [List.map_cons, itemChars_cons, itemChars_cons, dropBlanks_append, h.1, ih h.2]
    rcases eq_or_ne rest [] with rfl | hne
    · rfl
    · rw [if_neg (mt List.map_eq_nil_iff.mp hne), if_neg hne, dropBlanks_cons (by decide)]

theorem memberChars_withoutBlanks {members : List (String × Json)}
    (h : ∀ member ∈ members, IsPlainText member.1 ∧
      member.2.withoutBlanks.chars = dropBlanks member.2.chars) :
    memberChars (members.map fun member =>
        (.ofList (dropBlanks member.1.toList), member.2.withoutBlanks)) =
      dropBlanks (memberChars members) := by
  induction members with
  | nil => rfl
  | cons member rest ih =>
    rw [List.forall_mem_cons] at h
    obtain ⟨⟨hname, hvalue⟩, hrest⟩ := h
    rw [List.map_cons, memberChars_cons, memberChars_cons, dropBlanks_append,
      dropBlanks_cons (by decide), dropBlanks_append, hvalue, ih hrest,
      jsonStringText_dropBlanks hname]
    rcases eq_or_ne rest [] with rfl | hne
    · rfl
    · rw [if_neg (mt List.map_eq_nil_iff.mp hne), if_neg hne, dropBlanks_cons (by decide)]

/-- Leaving blanks out of the text of a plain value leaves them out of its strings. -/
theorem chars_withoutBlanks {value : Json} (h : value.Plain) :
    value.withoutBlanks.chars = dropBlanks value.chars := by
  induction value using Json.induct with
  | null => rfl
  | bool value => cases value <;> rfl
  | number value =>
    exact (dropBlanks_eq_self fun c hc =>
      (of_isNumberChar (isNumberChar_of_mem_text _ c hc)).1).symm
  | string text => exact jsonStringText_dropBlanks (h text (List.mem_singleton_self text))
  | array items ih =>
    have hitems : itemChars (items.map withoutBlanks) = dropBlanks (itemChars items) :=
      itemChars_withoutBlanks fun item hitem => ih item hitem fun text htext =>
        h text (mem_strings_array.mpr ⟨item, hitem, htext⟩)
    rw [withoutBlanks, mapStrings, mapItems_eq_map, chars, chars, dropBlanks_append,
      dropBlanks_cons (by decide), ← hitems]
    rfl
  | object members ih =>
    have hmembers := memberChars_withoutBlanks fun member hmember =>
      ⟨h _ (mem_strings_object.mpr ⟨member, hmember, .inl rfl⟩), ih member hmember fun text htext =>
        h text (mem_strings_object.mpr ⟨member, hmember, .inr htext⟩)⟩
    rw [withoutBlanks, mapStrings, mapMembers_eq_map, chars, chars, dropBlanks_append,
      dropBlanks_cons (by decide), ← hmembers]
    rfl

theorem of_mem_itemChars {items : List Json} {c : Char} (h : c ∈ itemChars items) :
    c = ',' ∨ ∃ item ∈ items, c ∈ item.chars := by
  induction items with
  | nil => exact absurd h List.not_mem_nil
  | cons item rest ih =>
    rw [itemChars_cons, List.mem_append] at h
    rcases h with h | h
    · exact .inr ⟨item, List.mem_cons_self, h⟩
    · split at h
      · exact absurd h List.not_mem_nil
      · rcases List.mem_cons.mp h with h | h
        · exact .inl h
        · exact (ih h).imp_right fun ⟨other, hother, hmem⟩ =>
            ⟨other, List.mem_cons_of_mem _ hother, hmem⟩

theorem of_mem_memberChars {members : List (String × Json)} {c : Char}
    (h : c ∈ memberChars members) :
    c = ',' ∨ c = ':' ∨
      ∃ member ∈ members, c ∈ jsonStringText member.1 ∨ c ∈ member.2.chars := by
  induction members with
  | nil => exact absurd h List.not_mem_nil
  | cons member rest ih =>
    rw [memberChars_cons, List.mem_append, List.mem_cons, List.mem_append] at h
    rcases h with h | h | h | h
    · exact .inr (.inr ⟨member, List.mem_cons_self, .inl h⟩)
    · exact .inr (.inl h)
    · exact .inr (.inr ⟨member, List.mem_cons_self, .inr h⟩)
    · split at h
      · exact absurd h List.not_mem_nil
      · rcases List.mem_cons.mp h with h | h
        · exact .inl h
        · exact (ih h).imp_right fun h => h.imp_right fun ⟨other, hother, hmem⟩ =>
            ⟨other, List.mem_cons_of_mem _ hother, hmem⟩

theorem notMem_jsonStringText {text : String} (h : IsPlainText text) :
    '\\' ∉ jsonStringText text := by
  rw [jsonStringText_of_plain h]
  simpa using fun hmem => (h _ hmem).2.1 rfl

/-- The text of a plain value has no backslash. -/
theorem notMem_chars_of_plain {value : Json} (h : value.Plain) : '\\' ∉ value.chars := by
  induction value using Json.induct with
  | null => decide
  | bool value => cases value <;> decide
  | number value => exact fun hmem => (of_isNumberChar (isNumberChar_of_mem_text _ _ hmem)).2 rfl
  | string text => exact notMem_jsonStringText (h text (List.mem_singleton_self text))
  | array items ih =>
    intro hmem
    have hitems : '\\' ∈ itemChars items := by simpa [chars] using hmem
    obtain hcomma | ⟨item, hitem, hmem⟩ := of_mem_itemChars hitems
    · exact absurd hcomma (by decide)
    · exact ih item hitem (fun text htext => h text (mem_strings_array.mpr ⟨item, hitem, htext⟩))
        hmem
  | object members ih =>
    intro hmem
    have hmembers : '\\' ∈ memberChars members := by simpa [chars] using hmem
    obtain hcomma | hcolon | ⟨member, hmember, hmem⟩ := of_mem_memberChars hmembers
    · exact absurd hcomma (by decide)
    · exact absurd hcolon (by decide)
    · rcases hmem with hmem | hmem
      · exact notMem_jsonStringText (h _ (mem_strings_object.mpr ⟨member, hmember, .inl rfl⟩)) hmem
      · exact ih member hmember
          (fun text htext => h text (mem_strings_object.mpr ⟨member, hmember, .inr htext⟩)) hmem

end Json

end ContractBindings
