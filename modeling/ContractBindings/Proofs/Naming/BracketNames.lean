import ContractBindings.Proofs.Naming.Identifiers
import ContractBindings.Proofs.Struct.Nesting
import ContractBindings.Proofs.Struct.NumberedNames

/-!
# Names of Go types

In Go a layer around a type is written as a pair of brackets in front of it, and byte sequences
begin with such brackets themselves. A name is made from the words of what is left behind all of
them (`BehindBrackets`), in the plural where there were any.

What is left is a word for an elementary type or the name of a struct, which is a stem with a
number behind it where there are no custom names. So the name is a plain identifier with a capital
in front, and says nothing of how many layers there are or how long they are
(`namedType_golang_of_isServed`).
-/

namespace ContractBindings

/-! ### Brackets in front -/

/-- **Behind brackets**: what is left of a text when all bracket groups at its start are dropped. -/
inductive BehindBrackets : List Char → List Char → Prop
  /-- There is no bracket at the start. -/
  | done {base : List Char} (h : base.head? ≠ some '[') : BehindBrackets base base
  /-- There is one more group at the start. -/
  | group {inside rest base : List Char} (hinside : ']' ∉ inside) (h : BehindBrackets rest base) :
      BehindBrackets ('[' :: inside ++ ']' :: rest) base

namespace BehindBrackets

variable {text base : List Char}

theorem head?_ne (h : BehindBrackets text base) : base.head? ≠ some '[' := by
  induction h with
  | done h => exact h
  | group _ _ ih => exact ih

/-- All is left just if there is no bracket at the start. -/
theorem eq_iff (h : BehindBrackets text base) : base = text ↔ text.head? ≠ some '[' := by
  cases h with
  | done h => exact iff_of_true rfl h
  | group _ h =>
    refine iff_of_false (fun heq => ?_) (fun hhead => hhead rfl)
    exact h.head?_ne (heq ▸ rfl)

/-- An open group ends at the first closing bracket. -/
theorem dropBracketGroups_inside {inside : List Char} (hinside : ']' ∉ inside) (rest : List Char) :
    Language.dropBracketGroups true (inside ++ ']' :: rest) =
      Language.dropBracketGroups false rest := by
  induction inside with
  | nil => rfl
  | cons c inside ih =>
    rw [List.mem_cons, not_or] at hinside
    obtain ⟨hc, hinside⟩ := hinside
    rw [List.cons_append, Language.dropBracketGroups, if_pos rfl, bne_iff_ne.mpr (Ne.symm hc)]
    exact ih hinside

theorem dropBracketGroups_eq (h : BehindBrackets text base) :
    Language.dropBracketGroups false text = base := by
  induction h with
  | @done base h =>
    cases base with
    | nil => rfl
    | cons c rest =>
      have hc : c ≠ '[' := fun heq => h (congrArg some heq)
      rw [Language.dropBracketGroups, if_neg Bool.false_ne_true, if_neg fun hgroup => hc hgroup.1]
  | @group inside rest base hinside _ ih =>
    have hclosed : ']' ∈ inside ++ ']' :: rest :=
      List.mem_append_right _ List.mem_cons_self
    rw [List.cons_append, Language.dropBracketGroups, if_neg Bool.false_ne_true,
      if_pos ⟨rfl, hclosed⟩, dropBracketGroups_inside hinside, ih]

end BehindBrackets

/-! ### Names -/

/-- Whether a text ends in `s`. -/
def endsInS (text : String) : Bool := text.toList.getLast? == some 's'

/-- The words of a text in camel case, with a capital in front. -/
def wordName (base : String) : String :=
  .ofList (joinWords (fun c => !c.isAlphanum) true base.toList)

/-- The plural of a name. -/
def pluralName (name : String) : String := name ++ if endsInS name then "es" else "s"

/-- Whether a text has brackets at its start. -/
def isBracketed (text : String) : Bool := text.toList.head? == some '['

/-- Whether a name is a plain identifier with a capital in front. -/
def isCapitalName (name : String) : Bool :=
  name.toList.head?.any Char.isUpper && name.toList.all Char.isAlphanum

theorem bracketName_of_behindBrackets {bound base : String}
    (h : BehindBrackets bound.toList base.toList) :
    Language.bracketName bound =
      if isBracketed bound then pluralName (wordName base) else wordName base := by
  have hbracketed : base.toList = bound.toList ↔ ¬isBracketed bound = true := by
    rw [h.eq_iff, isBracketed, beq_iff_eq]
  rw [Language.bracketName, h.dropBracketGroups_eq]
  by_cases hbound : isBracketed bound = true
  · rw [if_neg fun heq => hbracketed.mp heq hbound, if_pos hbound, pluralName, wordName, endsInS]
    simp only [String.toList_ofList, beq_iff_eq, String.ofList_append]
    split <;> rfl
  · rw [if_pos (hbracketed.mpr hbound), if_neg hbound, List.append_nil, wordName]

theorem endsInS_pluralName (name : String) : endsInS (pluralName name) = true := by
  rw [pluralName, endsInS, String.toList_append, List.getLast?_append]
  split <;> rfl

theorem isCapitalName_pluralName {name : String} (h : isCapitalName name = true) :
    isCapitalName (pluralName name) = true := by
  rw [isCapitalName, Bool.and_eq_true] at h
  rw [isCapitalName, pluralName, String.toList_append, List.all_append, h.2]
  cases hname : name.toList with
  | nil =>
    rw [hname] at h
    cases h.1
  | cons c rest =>
    rw [hname] at h
    refine Bool.and_eq_true_iff.mpr ⟨h.1, ?_⟩
    split <;> decide

/-- A name with a capital in front is a single word. -/
theorem wordName_eq_self {name : String} (h : isCapitalName name = true) :
    wordName name = name := by
  rw [isCapitalName, Bool.and_eq_true, List.all_eq_true] at h
  obtain ⟨hhead, hall⟩ := h
  rw [← String.toList_inj, wordName, String.toList_ofList]
  cases hname : name.toList with
  | nil => rfl
  | cons c rest =>
    rw [hname] at hhead hall
    obtain ⟨hc, hrest⟩ := List.forall_mem_cons.mp hall
    have hupper : c.toUpper = c :=
      Char.toUpper_eq_of_not_isLower (Char.not_isLower_of_isUpper hhead)
    have hword : ∀ d ∈ rest, (!d.isAlphanum) = false := fun d hd => by
      rw [hrest d hd, Bool.not_true]
    rw [joinWords, hc, if_neg (by decide), if_pos rfl,
      upperChar_of_basicLatin (lt_of_isAlphanum hc), hupper, joinWords_eq_self hword,
      List.singleton_append]

/-! ### What is left behind the brackets -/

/-- The texts of elementary types behind their brackets. -/
def golangWords : List String :=
  ["uint8", "uint16", "uint32", "uint64", "int8", "int16", "int32", "int64", "*big.Int", "byte",
    "string", "bool", "common.Address"]

/-- **Base** of a name: the text of an elementary type behind its brackets, or a stem with a number
behind it. -/
def IsNameBase (base : String) : Prop :=
  base ∈ golangWords ∨
    ∃ (language : Language) (n : Nat), base = language.structStem ++ toString n

section Bases

variable {base text : String}

theorem isCapitalName_synthesized (language : Language) (n : Nat) :
    isCapitalName (language.structStem ++ toString n) = true := by
  have hdigits : (toString n).toList.all Char.isAlphanum = true :=
    List.all_eq_true.mpr fun c hc => isAlphanum_of_isDigit (isDigit_of_mem_toString hc)
  rw [isCapitalName, String.toList_append, List.all_append, hdigits]
  cases language <;> rfl

/-- A number comes last, and not `s`. -/
theorem endsInS_synthesized (language : Language) (n : Nat) :
    endsInS (language.structStem ++ toString n) = false := by
  have hnumber : (toString n).toList ≠ [] := by
    rw [Nat.toString_eq_repr, Nat.toList_repr]
    exact decimalText_ne_nil n
  rw [endsInS, String.toList_append, List.getLast?_append_of_ne_nil _ hnumber]
  refine beq_eq_false_iff_ne.mpr fun hlast => ?_
  exact absurd (isDigit_of_mem_toString (List.mem_of_getLast? hlast)) (by decide)

theorem isCapitalName_wordName (h : IsNameBase base) : isCapitalName (wordName base) = true := by
  rcases h with hword | ⟨language, n, rfl⟩
  · revert base
    decide
  · have hname := isCapitalName_synthesized language n
    rwa [wordName_eq_self hname]

/-- Among the names in the singular, only that of addresses ends in `s`. -/
theorem endsInS_wordName_iff (h : IsNameBase base) :
    endsInS (wordName base) = true ↔ base = Language.golang.addressType := by
  rcases h with hword | ⟨language, n, rfl⟩
  · revert base
    decide
  · have hname := isCapitalName_synthesized language n
    rw [wordName_eq_self hname, endsInS_synthesized]
    refine iff_of_false Bool.false_ne_true fun heq => ?_
    rw [heq] at hname
    exact absurd hname (by decide)

theorem head?_ne_of_isNameBase (h : IsNameBase base) : base.toList.head? ≠ some '[' := by
  rcases h with hword | ⟨language, n, rfl⟩
  · revert base
    decide
  · rw [String.toList_append]
    cases language <;> exact nofun

theorem behindBrackets_arrayType (h : BehindBrackets text.toList base.toList) (size : Nat) :
    BehindBrackets (Language.golang.arrayType text size).toList base.toList := by
  have htext : (Language.golang.arrayType text size).toList =
      '[' :: decimalText size ++ ']' :: text.toList := by
    simp [Language.arrayType, Nat.toString_eq_repr, Nat.toList_repr, decimalText]
  rw [htext]
  exact .group (notMem_decimalText (by decide) size) h

theorem behindBrackets_sliceType (h : BehindBrackets text.toList base.toList) :
    BehindBrackets (Language.golang.sliceType text).toList base.toList := by
  have htext : (Language.golang.sliceType text).toList = '[' :: [] ++ ']' :: text.toList := by
    simp [Language.sliceType]
  rw [htext]
  exact .group List.not_mem_nil h

/-- The bound type of an elementary type is a base, with brackets in front for byte sequences. -/
theorem exists_behindBrackets_elementaryName (kind : Elementary) :
    ∃ base, IsNameBase base ∧
      BehindBrackets (Language.golang.elementaryName kind).toList base.toList := by
  have hplain : ∀ {word}, word ∈ golangWords →
      ∃ base, IsNameBase base ∧ BehindBrackets word.toList base.toList := fun hword =>
    ⟨_, .inl hword, .done (head?_ne_of_isNameBase (.inl hword))⟩
  have hbyte : IsNameBase "byte" := .inl (by decide)
  have hbytes : BehindBrackets "byte".toList "byte".toList := .done (head?_ne_of_isNameBase hbyte)
  cases kind with
  | uint bits | int bits =>
    refine hplain ?_
    by_cases hbits : bits ∈ Language.nativeWidths
    · revert bits
      decide
    · rw [Language.elementaryName, if_neg hbits]
      decide
  | address | bool | string => exact hplain (by decide)
  | bytes => exact ⟨"byte", hbyte, behindBrackets_sliceType hbytes⟩
  | function => exact ⟨"byte", hbyte, behindBrackets_arrayType hbytes 24⟩
  | fixedBytes size =>
    have htext : Language.golang.elementaryName (.fixedBytes size) =
        Language.golang.arrayType "byte" size := by
      rw [Language.elementaryName, Language.arrayType, String.append_assoc, String.append_assoc,
        String.append_assoc]
      rfl
    rw [htext]
    exact ⟨"byte", hbyte, behindBrackets_arrayType hbytes size⟩

/-- The name made from a base is a plain identifier, with brackets in front of the base or not. -/
theorem isCapitalName_bracketName (hbase : IsNameBase base)
    (h : BehindBrackets text.toList base.toList) :
    isCapitalName (Language.bracketName text) = true := by
  rw [bracketName_of_behindBrackets h]
  split
  · exact isCapitalName_pluralName (isCapitalName_wordName hbase)
  · exact isCapitalName_wordName hbase

theorem endsInS_bracketName_iff (hbase : IsNameBase base)
    (h : BehindBrackets text.toList base.toList) :
    endsInS (Language.bracketName text) = true ↔
      isBracketed text = true ∨ text = Language.golang.addressType := by
  rw [bracketName_of_behindBrackets h]
  split
  · rename_i hbracketed
    exact iff_of_true (endsInS_pluralName _) (.inl hbracketed)
  · -- without brackets the base is the whole text
    rename_i hplain
    have htext : base = text :=
      String.toList_inj.mp (h.eq_iff.mpr fun hhead => hplain (beq_iff_eq.mpr hhead))
    rw [endsInS_wordName_iff hbase, htext, or_iff_right hplain]

end Bases

/-! ### Mapped types -/

section Mapping

variable {type : AbiType} {base inner bound : String} {before after : StructRegistry}

theorem behindBrackets_nest (h : BehindBrackets inner.toList base.toList) (type : AbiType) :
    BehindBrackets (Language.golang.nest type inner).toList base.toList := by
  induction type using AbiType.induct with
  | elementary _ | tuple _ _ => exact h
  | array element size ih => exact behindBrackets_arrayType ih size
  | slice element ih => exact behindBrackets_sliceType ih

theorem isBracketed_nest (type : AbiType) (inner : String) :
    isBracketed (Language.golang.nest type inner) = true ↔
      type.depth ≠ 0 ∨ isBracketed inner = true := by
  cases type with
  | elementary _ | tuple _ => exact (or_iff_right fun h => h rfl).symm
  | array element size =>
    refine iff_of_true ?_ (.inl (Nat.succ_ne_zero _))
    simp [Language.nest, Language.arrayType, isBracketed]
  | slice element =>
    refine iff_of_true ?_ (.inl (Nat.succ_ne_zero _))
    simp [Language.nest, Language.sliceType, isBracketed]

/-- Behind the brackets of a bound type there is a base, as long as there are no custom names. -/
theorem exists_isNameBase_of_yields (h : StructRegistry.IsServed .empty before)
    (hrun : (mapType .golang type).Yields before bound after) :
    ∃ base, IsNameBase base ∧ BehindBrackets bound.toList base.toList := by
  induction type using AbiType.induct generalizing bound with
  | elementary kind =>
    obtain ⟨-, rfl, -⟩ := yields_mapType_elementary_iff.mp hrun
    exact exists_behindBrackets_elementaryName kind
  | array element size ih =>
    rw [mapType, yields_bind_pure_iff] at hrun
    obtain ⟨inner, hinner, rfl⟩ := hrun
    obtain ⟨base, hbase, hbehind⟩ := ih hinner
    exact ⟨base, hbase, behindBrackets_arrayType hbehind size⟩
  | slice element ih =>
    rw [mapType, yields_bind_pure_iff] at hrun
    obtain ⟨inner, hinner, rfl⟩ := hrun
    obtain ⟨base, hbase, hbehind⟩ := ih hinner
    exact ⟨base, hbase, behindBrackets_sliceType hbehind⟩
  | tuple fields ih =>
    obtain ⟨language, n, rfl⟩ := StructRegistry.exists_numbered_of_yields h hrun
    have hbase : IsNameBase (language.structStem ++ toString n) := .inr ⟨language, n, rfl⟩
    exact ⟨_, hbase, .done (head?_ne_of_isNameBase hbase)⟩

/-- The innermost type keeps its bound type, inside whichever layers it is mapped later. -/
theorem eq_nest_of_yields {other : AbiType} {otherBound : String}
    {later last : StructRegistry}
    (hrun : (mapType .golang type.innermost).Yields before inner after)
    (hlater : after.Extends later) (hinner : other.innermost = type.innermost)
    (hother : (mapType .golang other).Yields later otherBound last) :
    otherBound = Language.golang.nest other inner := by
  have hgrowth := (grows_mapType .golang other).registry later
  rw [hother] at hgrowth
  have hknown := (grows_mapType .golang type.innermost).result hrun
    (hlater.trans hgrowth.toExtends)
  obtain ⟨found, hfound, rfl⟩ := yields_mapType_iff.mp hother
  rw [hinner] at hfound
  have hagain := (grows_mapType .golang type.innermost).result hfound (.refl last)
  rw [Option.some.inj (hagain.symm.trans hknown)]

/-- **Names of types** in a registry without custom names. A legal type is mapped, and its name is
a plain identifier with a capital in front, made from what is left behind the brackets of its bound
type. It is in the plural just if there are brackets, and the only other name that ends in `s` is
that of addresses. A type with the same innermost type has the same name, inside whichever layers it
is mapped later, unless only one of the two has layers. -/
theorem namedType_golang_of_isServed {registry : StructRegistry} (hlegal : type.IsLegal)
    (h : StructRegistry.IsServed .empty registry) :
    ∃ bound after base, (mapType .golang type).Yields registry bound after ∧
      BehindBrackets bound.toList base.toList ∧
      isCapitalName (Language.golang.namedType bound type) = true ∧
      Language.golang.namedType bound type =
        (if isBracketed bound then pluralName (wordName base) else wordName base) ∧
      (endsInS (Language.golang.namedType bound type) = true ↔
        isBracketed bound = true ∨ bound = Language.golang.addressType) ∧
      ∀ later other otherBound last, after.Extends later →
        other.innermost = type.innermost → (other.depth = 0 ↔ type.depth = 0) →
        (mapType .golang other).Yields later otherBound last →
        Language.golang.namedType otherBound other = Language.golang.namedType bound type := by
  have hrecords : Language.golang.hasRecords = true := rfl
  have hfault : FailsAs (mapType .golang type) none :=
    Language.tupleFault?_of_hasRecords hrecords type ▸ failsAs_mapType hlegal
  obtain ⟨bound, after, hrun⟩ := hfault.exists_yields registry
  obtain ⟨inner, hinner, rfl⟩ := yields_mapType_iff.mp hrun
  obtain ⟨base, hbase, hbehind⟩ := exists_isNameBase_of_yields h hinner
  have hname : ∀ other, Language.golang.namedType (Language.golang.nest other inner) other =
      if isBracketed (Language.golang.nest other inner) then pluralName (wordName base)
      else wordName base := fun other =>
    bracketName_of_behindBrackets (behindBrackets_nest hbehind other)
  have htype := behindBrackets_nest hbehind type
  refine ⟨_, after, base, hrun, htype, isCapitalName_bracketName hbase htype, hname type,
    endsInS_bracketName_iff hbase htype, ?_⟩
  intro later other otherBound last hlater hsame hlayers hother
  have hbracketed : isBracketed (Language.golang.nest other inner) =
      isBracketed (Language.golang.nest type inner) := by
    rw [Bool.eq_iff_iff, isBracketed_nest, isBracketed_nest, Ne, Ne, hlayers]
  rw [eq_nest_of_yields hinner hlater hsame hother, hname other, hname type, hbracketed]

end Mapping

/-- Three lists of records. -/
def recordTable : AbiType := .array (.slice (.tuple [("flag", .elementary .bool)])) 3

/-- The first struct was requested for the other language. -/
theorem namedType_golang_of_isServed_recordTable :
    ∃ registry bound after, StructRegistry.IsServed .empty registry ∧
      registry.structs.map (·.name) = ["Class0"] ∧
      (mapType .golang recordTable).Yields registry bound after ∧
      bound = "[3][]Struct1" ∧ Language.golang.namedType bound recordTable = "Struct1s" ∧
      isCapitalName (Language.golang.namedType bound recordTable) = true ∧
      (endsInS (Language.golang.namedType bound recordTable) = true ↔
        isBracketed bound = true ∨ bound = Language.golang.addressType) := by
  have hlegal : recordTable.IsLegal := by
    refine .array (.slice (.tuple fun field hfield => ?_)) (by decide)
    rw [List.mem_singleton.mp hfield]
    exact .elementary trivial
  have hstart : StructRegistry.IsServed .empty .empty := .start
  have hserved := hstart.next .java (.resolve (.tuple [("count", .elementary (.uint 8))]))
  obtain ⟨bound, after, base, hrun, -, hcapital, -, hplural, -⟩ :=
    namedType_golang_of_isServed hlegal hserved
  have hresult : (Except.ok bound : Except BindError String) = .ok "[3][]Struct1" :=
    (congrArg Prod.fst hrun).symm
  have hbound : bound = "[3][]Struct1" := Except.ok.inj hresult
  have hname : Language.golang.namedType bound recordTable = "Struct1s" := by
    rw [hbound]
    decide
  exact ⟨_, bound, after, hserved, rfl, hrun, hbound, hname, hcapital, hplural⟩

/-- The name of addresses ends in `s`, without any brackets. -/
theorem endsInS_namedType_golang_address :
    StructRegistry.IsServed .empty .empty ∧ (AbiType.elementary .address).IsLegal ∧
      (mapType .golang (.elementary .address)).Yields .empty "common.Address" .empty ∧
      isBracketed "common.Address" = false ∧
      Language.golang.namedType "common.Address" (.elementary .address) = "CommonAddress" ∧
      endsInS "CommonAddress" = true :=
  ⟨.start, .elementary trivial, rfl, by decide, by decide, by decide⟩

end ContractBindings
