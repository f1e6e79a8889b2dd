import ContractBindings.Proofs.Naming.Identifiers
import ContractBindings.Proofs.Struct.Nesting

/-!
# Names of Java types

In Java a layer around a type is written by a table of collections, or else by a pair of brackets
behind the type. From the second layer on no text is in the table any more
(`isUnlisted_iterate_collectionType`), so that only brackets are added. A name inside an identifier
is therefore settled by the innermost type and the number of layers:

* `isPlainIdentifier_namedType_java` — it is a plain identifier for the integers of native width,
  and for other types up to one layer, but never for functions;
* `namedType_java_of_native` — an integer of native width has the name of its own, in the plural
  inside layers. The exception is a list of integers of 8 bits, whose bound type is that of a byte
  sequence, and which is named like one.
-/

namespace ContractBindings

namespace Elementary

/-- The integer type of the given sign and width. -/
def integer (signed : Bool) (bits : Nat) : Elementary := if signed then int bits else uint bits

/-- Whether a type is an integer for whose width both languages have a type. -/
def isNative : Elementary → Bool
  | uint bits | int bits => decide (bits ∈ Language.nativeWidths)
  | _ => false

/-- Whether the values of a type are byte sequences or truth values. -/
def isBytesOrBool : Elementary → Bool
  | bytes | fixedBytes _ | function | bool => true
  | _ => false

theorem exists_integer_of_isNative {kind : Elementary} (h : kind.isNative = true) :
    ∃ signed bits, bits ∈ Language.nativeWidths ∧ kind = integer signed bits := by
  cases kind with
  | uint bits => exact ⟨false, bits, by simpa [isNative] using h, rfl⟩
  | int bits => exact ⟨true, bits, by simpa [isNative] using h, rfl⟩
  | address | bool | string | bytes | function | fixedBytes _ => cases h

end Elementary

namespace Language

/-! ### Collections -/

theorem nest_java (type : AbiType) (inner : String) :
    java.nest type inner = collectionType^[type.depth] inner := by
  induction type using AbiType.induct with
  | elementary kind => rfl
  | array element size ih =>
    rw [AbiType.depth, Function.iterate_succ_apply', ← ih]
    rfl
  | slice element ih =>
    rw [AbiType.depth, Function.iterate_succ_apply', ← ih]
    rfl
  | tuple fields ih => rfl

/-- **Unlisted** text: the table has no collection for it, and for no number of brackets behind it
either. -/
def IsUnlisted (text : String) : Prop :=
  text ∉ namedCollections.map (·.1) ∧ text ≠ "byte"

instance (text : String) : Decidable (IsUnlisted text) :=
  inferInstanceAs (Decidable (text ∉ namedCollections.map (·.1) ∧ text ≠ "byte"))

theorem collectionType_of_isUnlisted {text : String} (h : IsUnlisted text) :
    collectionType text = text ++ "[]" := by
  have hnone : namedCollections.lookup text = none := by
    refine List.lookup_eq_none_iff.mpr fun entry hentry => bne_iff_ne.mpr fun heq => ?_
    exact h.1 (heq ▸ List.mem_map_of_mem hentry)
  rw [collectionType, hnone, Option.getD_none]

/-- The only text in the table that ends in brackets is that of a byte sequence. -/
theorem IsUnlisted.append_brackets {text : String} (h : IsUnlisted text) :
    IsUnlisted (text ++ "[]") := by
  have hends : ∀ key ∈ namedCollections.map (·.1), key.toList.getLast? = some ']' →
      key = "byte" ++ "[]" := by
    decide
  have hlast : (text ++ "[]").toList.getLast? = some ']' := by
    rw [String.toList_append, List.getLast?_append]
    rfl
  refine ⟨fun hmem => h.2 ?_, fun heq => ?_⟩
  · exact (String.append_left_inj "[]").mp (hends _ hmem hlast)
  · rw [heq] at hlast
    exact absurd hlast (by decide)

theorem IsUnlisted.collectionType {text : String} (h : IsUnlisted text) :
    IsUnlisted (collectionType text) :=
  collectionType_of_isUnlisted h ▸ h.append_brackets

theorem IsUnlisted.iterate {text : String} (h : IsUnlisted text) (n : Nat) :
    IsUnlisted (Language.collectionType^[n] text) := by
  induction n with
  | zero => exact h
  | succ n ih =>
    rw [Function.iterate_succ_apply']
    exact ih.collectionType

/-- The bound types of elementary types. -/
def javaNames : List String :=
  ["BigInt", "byte", "short", "int", "long", "byte[]", "byte[24]", "String", "boolean", "Address"]

/-- A signed integer without a type of its width is bound like an unsigned one. -/
theorem elementaryName_java_int {bits : Nat} (hbits : bits ∉ nativeWidths) :
    java.elementaryName (.int bits) = "BigInt" := by
  simp only [nativeWidths, List.mem_cons, List.not_mem_nil, or_false, not_or] at hbits
  simp [elementaryName, hbits]

theorem elementaryName_java_mem (kind : Elementary) :
    java.elementaryName kind ∈ javaNames := by
  cases kind with
  | int bits =>
    by_cases hbits : bits ∈ nativeWidths
    · revert bits
      decide
    · rw [elementaryName_java_int hbits]
      decide
  | address | bool | string | bytes | function => decide
  | uint _ | fixedBytes _ => simp [elementaryName, javaNames]

/-- Behind two layers there are only brackets. -/
theorem isUnlisted_iterate_collectionType (kind : Elementary) (n : Nat) :
    IsUnlisted (collectionType^[n + 2] (java.elementaryName kind)) := by
  have htwo : ∀ name ∈ javaNames, IsUnlisted (collectionType^[2] name) := by decide
  rw [Function.iterate_add_apply]
  exact (htwo _ (elementaryName_java_mem kind)).iterate n

/-! ### Names -/

/-- The **name of an integer type**, in the singular or plural. -/
def integerName (signed plural : Bool) (bits : Nat) : String :=
  (if signed then "Int" else "Uint") ++ toString bits ++ if plural then "s" else ""

section Names

variable {type : AbiType} {kind : Elementary} {signed : Bool} {bits : Nat} {bound : String}

/-- The name of a type inside whose layers there is an integer of native width. -/
theorem widthName_of_native (hbits : bits ∈ nativeWidths)
    (h : type.innermost = .elementary (.integer signed bits)) :
    widthName bound type =
      if bound = "byte[]" then "Binary"
      else if bound = "boolean" then "Bool"
      else integerName signed (decide (type.depth ≠ 0)) bits := by
  have hword : ∀ word plural, (integerName? word bits plural).getD bound =
      word ++ toString bits ++ if plural then "s" else "" := by
    intro word plural
    rw [integerName?, if_pos hbits, Option.getD_some]
  rw [widthName.eq_def, h]
  cases type with
  | elementary kind =>
    cases h
    cases signed <;> simp [Elementary.integer, hword, integerName, AbiType.depth]
  | array _ _ | slice _ =>
    cases signed <;> simp [Elementary.integer, hword, integerName, AbiType.depth]
  | tuple _ => cases h

/-- The name of any other type is the bound type, but for two of these. -/
theorem widthName_of_not_native (hkind : kind.isNative = false)
    (h : type.innermost = .elementary kind) :
    widthName bound type =
      if bound = "byte[]" then "Binary" else if bound = "boolean" then "Bool" else bound := by
  have hword : ∀ word bits plural, bits ∉ nativeWidths →
      (integerName? word bits plural).getD bound = bound := by
    intro word bits plural hbits
    rw [integerName?, if_neg hbits, Option.getD_none]
  rw [widthName.eq_def, h]
  cases kind with
  | uint bits | int bits => simp [hword _ _ _ (of_decide_eq_false hkind)]
  | address | bool | string | bytes | function | fixedBytes _ => rfl

end Names

/-! ### Names that are identifiers -/

section Identifiers

variable {type : AbiType} {kind : Elementary} {text bound : String}

theorem isPlainIdentifier_integerName (signed plural : Bool) {bits : Nat}
    (hbits : bits ∈ nativeWidths) : isPlainIdentifier (integerName signed plural bits) = true := by
  have hall : ∀ signed plural, ∀ bits ∈ nativeWidths,
      isPlainIdentifier (integerName signed plural bits) = true := by
    decide
  exact hall signed plural bits hbits

/-- A text with a bracket is no identifier. -/
theorem isPlainIdentifier_of_bracket_mem (h : '[' ∈ text.toList) :
    isPlainIdentifier text = false := by
  refine Bool.eq_false_iff.mpr fun hplain => ?_
  rw [isPlainIdentifier, Bool.and_eq_true, List.all_eq_true] at hplain
  exact absurd (hplain.2 _ h) (by decide)

theorem IsUnlisted.bracket_mem_iterate (h : IsUnlisted text) (n : Nat) :
    '[' ∈ (Language.collectionType^[n + 1] text).toList := by
  rw [Function.iterate_succ_apply', collectionType_of_isUnlisted (h.iterate n),
    String.toList_append]
  exact List.mem_append_right _ (by decide)

/-- Types other than integers of native width have a collection in the table, but for functions. -/
theorem elementaryName_java_of_not_native (hkind : kind.isNative = false)
    (hfunction : kind ≠ .function) :
    java.elementaryName kind ∈ namedCollections.map (·.1) := by
  cases kind with
  | int bits =>
    rw [elementaryName_java_int (of_decide_eq_false hkind)]
    decide
  | function => exact absurd rfl hfunction
  | uint _ | fixedBytes _ => simp [elementaryName, namedCollections]
  | address | bool | string | bytes => decide

/-- The name of an integer of native width is an identifier, whatever its bound type. -/
theorem isPlainIdentifier_widthName_of_native (hkind : kind.isNative = true)
    (hinner : type.innermost = .elementary kind) :
    isPlainIdentifier (widthName bound type) = true := by
  obtain ⟨signed, bits, hbits, rfl⟩ := Elementary.exists_integer_of_isNative hkind
  rw [widthName_of_native hbits hinner]
  split_ifs
  · decide
  · decide
  · exact isPlainIdentifier_integerName _ _ hbits

/-- A bound type with a bracket that is not in the table is its own name, which is no identifier. -/
theorem isPlainIdentifier_widthName_of_isUnlisted (hkind : kind.isNative = false)
    (hinner : type.innermost = .elementary kind) (hbound : IsUnlisted bound)
    (hbracket : '[' ∈ bound.toList) : isPlainIdentifier (widthName bound type) = false := by
  have hbytes : bound ≠ "byte[]" := fun heq => hbound.1 (heq ▸ by decide)
  have hbool : bound ≠ "boolean" := fun heq => hbound.1 (heq ▸ by decide)
  rw [widthName_of_not_native hkind hinner, if_neg hbytes, if_neg hbool]
  exact isPlainIdentifier_of_bracket_mem hbracket

/-- The bound type of a function has brackets already, with or without layers. -/
theorem isPlainIdentifier_widthName_function (hinner : type.innermost = .elementary .function) :
    isPlainIdentifier
      (widthName (collectionType^[type.depth] (java.elementaryName .function)) type) = false := by
  have hunlisted : IsUnlisted (java.elementaryName .function) := by decide
  refine isPlainIdentifier_widthName_of_isUnlisted rfl hinner (hunlisted.iterate _) ?_
  cases type.depth with
  | zero => decide
  | succ n => exact hunlisted.bracket_mem_iterate n

/-- Up to one layer, a name from the table is an identifier; from the second layer on, brackets are
part of it. -/
theorem isPlainIdentifier_widthName_of_listed_iff (hkind : kind.isNative = false)
    (hinner : type.innermost = .elementary kind)
    (hlisted : java.elementaryName kind ∈ namedCollections.map (·.1)) :
    isPlainIdentifier (widthName (collectionType^[type.depth] (java.elementaryName kind)) type) =
        true ↔ type.depth ≤ 1 := by
  match type.depth with
  | 0 | 1 =>
    rw [widthName_of_not_native hkind hinner]
    generalize java.elementaryName kind = text at hlisted
    revert text
    decide
  | n + 2 =>
    have hunlisted : ∀ key ∈ namedCollections.map (·.1), IsUnlisted (collectionType key) := by
      decide
    refine iff_of_false (Bool.eq_false_iff.mp ?_) (by omega)
    rw [Function.iterate_succ_apply]
    exact isPlainIdentifier_widthName_of_isUnlisted hkind hinner
      ((hunlisted _ hlisted).iterate _) ((hunlisted _ hlisted).bracket_mem_iterate n)

theorem isPlainIdentifier_widthName_iff (hinner : type.innermost = .elementary kind) :
    isPlainIdentifier (widthName (collectionType^[type.depth] (java.elementaryName kind)) type) =
        true ↔
      kind.isNative = true ∨ kind ≠ .function ∧ type.depth ≤ 1 := by
  cases hkind : kind.isNative with
  | true => exact iff_of_true (isPlainIdentifier_widthName_of_native hkind hinner) (.inl rfl)
  | false =>
    rw [or_iff_right Bool.false_ne_true]
    by_cases hfunction : kind = .function
    · subst hfunction
      refine iff_of_false (Bool.eq_false_iff.mp ?_) fun h => h.1 rfl
      exact isPlainIdentifier_widthName_function hinner
    · rw [and_iff_right hfunction]
      exact isPlainIdentifier_widthName_of_listed_iff hkind hinner
        (elementaryName_java_of_not_native hkind hfunction)

/-- **Names as identifiers**: just the types without tuples are mapped, and the name of such a type
is a plain identifier for an integer of native width inside any layers, and inside at most one layer
for all others except functions. -/
theorem isPlainIdentifier_namedType_java (h : type.IsLegal) (before : StructRegistry) :
    ((∃ bound after, (mapType .java type).Yields before bound after) ↔
        type.innermost.isTuple = false) ∧
      ∀ bound after, (mapType .java type).Yields before bound after →
        ∃ kind, type.innermost = .elementary kind ∧
          (isPlainIdentifier (java.namedType bound type) = true ↔
            kind.isNative = true ∨ kind ≠ .function ∧ type.depth ≤ 1) := by
  have hmaps := exists_yields_mapType_iff (rfl : java.hasRecords = false) h before
  refine ⟨hmaps, fun bound after hrun => ?_⟩
  obtain ⟨kind, hinner⟩ := AbiType.exists_innermost_eq (hmaps.mp ⟨bound, after, hrun⟩)
  obtain ⟨-, rfl, -⟩ := (yields_mapType_of_elementary_iff hinner).mp hrun
  rw [nest_java]
  exact ⟨kind, hinner, isPlainIdentifier_widthName_iff hinner⟩

/-- Lists of lists of numbers. -/
def numberTable : AbiType := .slice (.array (.elementary (.uint 64)) 3)

theorem isPlainIdentifier_namedType_java_numberTable :
    ∃ bound after, (mapType .java numberTable).Yields .empty bound after ∧
      java.namedType bound numberTable = "Uint64s" ∧
      isPlainIdentifier (java.namedType bound numberTable) = true := by
  have hlegal : numberTable.IsLegal := .slice (.array (.elementary (by decide)) (by decide))
  obtain ⟨hmaps, hplain⟩ := isPlainIdentifier_namedType_java hlegal .empty
  obtain ⟨bound, after, hrun⟩ := hmaps.mpr rfl
  obtain ⟨kind, hinner, hiff⟩ := hplain bound after hrun
  obtain ⟨-, rfl, -⟩ := (yields_mapType_of_elementary_iff hinner).mp hrun
  cases hinner
  exact ⟨_, after, hrun, by decide, hiff.mpr (.inl rfl)⟩

/-- A function, and lists of lists of addresses: the bound type is the name, brackets and all. -/
theorem not_isPlainIdentifier_namedType_java :
    ((AbiType.elementary .function).IsLegal ∧
      (mapType .java (.elementary .function)).Yields .empty "byte[24]" .empty ∧
      isPlainIdentifier (java.namedType "byte[24]" (.elementary .function)) = false) ∧
    (AbiType.slice (.slice (.elementary .address))).IsLegal ∧
      (mapType .java (.slice (.slice (.elementary .address)))).Yields .empty "Addresses[]" .empty ∧
      isPlainIdentifier (java.namedType "Addresses[]" (.slice (.slice (.elementary .address)))) =
        false := by
  refine ⟨⟨.elementary trivial, rfl, by decide⟩, .slice (.slice (.elementary trivial)), rfl, ?_⟩
  decide

end Identifiers

/-! ### Integers of native width -/

section Integers

variable {type : AbiType} {kind : Elementary} {signed : Bool} {bits : Nat}

/-- A single layer around an integer of 8 bits is bound like a byte sequence, and nothing else
around an integer is; no integer is bound like a truth value. -/
theorem iterate_collectionType_integer (signed : Bool) {bits : Nat} (hbits : bits ∈ nativeWidths)
    (n : Nat) :
    (collectionType^[n] (java.elementaryName (.integer signed bits)) = "byte[]" ↔
        signed = true ∧ bits = 8 ∧ n = 1) ∧
      collectionType^[n] (java.elementaryName (.integer signed bits)) ≠ "boolean" := by
  match n with
  | 0 | 1 =>
    revert signed bits
    decide
  | n + 2 =>
    have hunlisted := isUnlisted_iterate_collectionType (.integer signed bits) n
    refine ⟨iff_of_false (fun heq => ?_) (by omega), fun heq => ?_⟩
    · rw [heq] at hunlisted
      exact absurd hunlisted (by decide)
    · rw [heq] at hunlisted
      exact absurd hunlisted (by decide)

theorem widthName_integer (hbits : bits ∈ nativeWidths)
    (hinner : type.innermost = .elementary (.integer signed bits)) :
    widthName (collectionType^[type.depth] (java.elementaryName (.integer signed bits))) type =
      if signed = true ∧ bits = 8 ∧ type.depth = 1 then "Binary"
      else integerName signed (decide (type.depth ≠ 0)) bits := by
  obtain ⟨hbytes, hbool⟩ := iterate_collectionType_integer signed hbits type.depth
  rw [widthName_of_native hbits hinner, if_neg hbool]
  simp only [hbytes]

/-- The name of an integer is that of no byte sequence or truth value: behind two layers the latter
have brackets, and the few others are compared. -/
theorem widthName_ne_integerName (hbits : bits ∈ nativeWidths) (hkind : kind.isBytesOrBool = true)
    (hinner : type.innermost = .elementary kind) (signed plural : Bool) :
    widthName (collectionType^[type.depth] (java.elementaryName kind)) type ≠
      integerName signed plural bits := by
  have hnative : kind.isNative = false := by
    cases kind with
    | uint _ | int _ => cases hkind
    | address | bool | string | bytes | function | fixedBytes _ => rfl
  have htext : java.elementaryName kind ∈ ["byte[]", "byte[24]", "boolean"] := by
    cases kind with
    | bytes | function | bool => decide
    | fixedBytes _ => simp [elementaryName]
    | uint _ | int _ | address | string => cases hkind
  by_cases hdepth : type.depth ≤ 1
  · rw [widthName_of_not_native hnative hinner]
    generalize java.elementaryName kind = text at htext
    generalize type.depth = depth at hdepth
    interval_cases depth <;> revert text bits signed plural <;> decide
  · intro heq
    have hplain := isPlainIdentifier_integerName signed plural hbits
    rw [← heq, isPlainIdentifier_widthName_iff hinner, hnative] at hplain
    exact hplain.elim Bool.false_ne_true fun h => hdepth h.2

/-- **Names of integers** of native width: its own name, in the plural inside layers, which no byte
sequence or truth value has. Both fail for a single layer around a signed integer of 8 bits. -/
theorem namedType_java_of_native (hbits : bits ∈ nativeWidths)
    (hinner : type.innermost = .elementary (.integer signed bits)) (before : StructRegistry) :
    ∃ bound, (mapType .java type).Yields before bound before ∧
      (java.namedType bound type = integerName signed (decide (type.depth ≠ 0)) bits ↔
        ¬(signed = true ∧ bits = 8 ∧ type.depth = 1)) ∧
      ((∃ other kind otherBound after, other.innermost = .elementary kind ∧
          kind.isBytesOrBool = true ∧ (mapType .java other).Yields before otherBound after ∧
          java.namedType otherBound other = java.namedType bound type) ↔
        signed = true ∧ bits = 8 ∧ type.depth = 1) := by
  have hlegal : (Elementary.integer signed bits).IsLegal := by
    clear hinner
    revert signed bits
    decide
  have hbytes : (AbiType.elementary .bytes).innermost = .elementary .bytes := rfl
  have hbinary : "Binary" ≠ integerName signed (decide (type.depth ≠ 0)) bits :=
    widthName_ne_integerName hbits rfl hbytes _ _
  refine ⟨_, (yields_mapType_of_elementary_iff hinner).mpr ⟨hlegal, rfl, rfl⟩, ?_⟩
  rw [nest_java, namedType, widthName_integer hbits hinner]
  split_ifs with hbyteList
  · refine ⟨iff_of_false hbinary fun h => h hbyteList, iff_of_true ?_ hbyteList⟩
    refine ⟨.elementary .bytes, .bytes, "byte[]", before, rfl, rfl, ?_, rfl⟩
    exact yields_mapType_elementary_iff.mpr ⟨trivial, rfl, rfl⟩
  · refine ⟨iff_of_true rfl hbyteList, iff_of_false ?_ hbyteList⟩
    rintro ⟨other, kind, otherBound, after, hother, hkind, hrun, hname⟩
    obtain ⟨-, rfl, -⟩ := (yields_mapType_of_elementary_iff hother).mp hrun
    rw [nest_java] at hname
    exact widthName_ne_integerName hbits hkind hother _ _ hname

theorem namedType_java_of_native_numberTable :
    ∃ bound, (mapType .java numberTable).Yields .empty bound .empty ∧
      java.namedType bound numberTable = "Uint64s" ∧
      ¬∃ other kind otherBound after, other.innermost = .elementary kind ∧
        kind.isBytesOrBool = true ∧ (mapType .java other).Yields .empty otherBound after ∧
        java.namedType otherBound other = "Uint64s" := by
  have hbits : 64 ∈ nativeWidths := by decide
  have hinner : numberTable.innermost = .elementary (.integer false 64) := rfl
  have hdepth : ¬(false = true ∧ 64 = 8 ∧ numberTable.depth = 1) := by decide
  obtain ⟨bound, hrun, hname, hother⟩ := namedType_java_of_native hbits hinner .empty
  have hplural : java.namedType bound numberTable = "Uint64s" :=
    (hname.mpr hdepth).trans (by decide)
  rw [hplural] at hother
  exact ⟨bound, hrun, hplural, fun h => hdepth (hother.mp h)⟩

/-- A list of integers of 8 bits has the name of a byte sequence. -/
theorem namedType_java_byteList :
    (mapType .java (.slice (.elementary (.int 8)))).Yields .empty "byte[]" .empty ∧
      java.namedType "byte[]" (.slice (.elementary (.int 8))) ≠ "Int8s" ∧
      (mapType .java (.elementary .bytes)).Yields .empty "byte[]" .empty ∧
      java.namedType "byte[]" (.slice (.elementary (.int 8))) =
        java.namedType "byte[]" (.elementary .bytes) :=
  ⟨rfl, by decide, rfl, rfl⟩

end Integers

end Language

end ContractBindings
