import ContractBindings.Proofs.Abi.Description
import Mathlib.Data.List.DropRight

/-!
# Blanks around types

Blanks around the text of a type do not count when the type is read. Whether a parameter has
components is seen before that, from the text with its blanks, and so blanks in front of the word
for tuples **hide** the components. Apart from that, trimming the type of a parameter never matters:

* `AbiType.parse_trimmed` — reading a type;
* `AbiParameter.ofJson_trimType` — reading a parameter that hides no components;
* `AbiParameter.ofJson_of_trimsType` — reading a parameter in which the type of some component, at
  any depth, is trimmed.
-/

namespace ContractBindings

/-! ### Trimmed texts -/

/-- A text without the blanks around it. -/
def trimmed (text : String) : String := .ofList (trimBlanks text.toList)

/-- Nothing is left to trim. -/
theorem trimBlanks_trimBlanks (text : List Char) :
    trimBlanks (trimBlanks text) = trimBlanks text := by
  have hstart : (trimBlanks text).dropWhile isBlank = trimBlanks text := by
    have hfirst := List.head?_dropWhile_not isBlank text
    obtain ⟨trail, htrail⟩ : trimBlanks text <+: text.dropWhile isBlank :=
      List.rdropWhile_prefix isBlank _
    rw [← htrail] at hfirst
    cases htrim : trimBlanks text with
    | nil => rfl
    | cons c rest =>
      rw [htrim] at hfirst
      exact List.dropWhile_cons_of_neg (by simpa using hfirst)
  conv_lhs => rw [trimBlanks, hstart, trimBlanks, List.reverse_reverse, List.dropWhile_idempotent]
  rfl

/-- A word at the start of a text is there when the text is trimmed. -/
theorem prefix_trimBlanks {word text : List Char} (hword : ∀ c ∈ word, isBlank c = false)
    (h : word <+: text) : word <+: trimBlanks text := by
  obtain ⟨lead, trail, htext, hlead, htrail⟩ := AbiType.exists_eq_trimBlanks text
  cases word with
  | nil => exact List.nil_prefix
  | cons first rest =>
    have hnolead : lead = [] := by
      cases lead with
      | nil => rfl
      | cons c _ =>
        rw [htext, List.cons_append, List.cons_append, List.cons_prefix_cons] at h
        rw [List.forall_mem_cons, ← h.1] at hlead
        exact absurd hlead.1 (by simp [hword first List.mem_cons_self])
    rw [htext, hnolead, List.nil_append] at h
    rcases List.prefix_or_prefix_of_prefix h (List.prefix_append (trimBlanks text) trail) with
      hshort | ⟨gap, hgap⟩
    · exact hshort
    · rw [← hgap, List.prefix_append_right_inj] at h
      -- what the word has behind the trimmed text would be both blank and not blank
      have hnogap : gap = [] := by
        refine List.eq_nil_iff_forall_not_mem.mpr fun c hc => ?_
        have hblank := htrail c (h.subset hc)
        rw [hword c (hgap ▸ List.mem_append_right _ hc)] at hblank
        cases hblank
      rw [hnogap, List.append_nil] at hgap
      exact hgap ▸ List.prefix_rfl

theorem isBlank_of_mem_tuple {c : Char} (hc : c ∈ "tuple".toList) : isBlank c = false := by
  have hword : "tuple".toList.all Char.isAlphanum = true := by decide
  exact isBlank_of_isAlphanum (List.all_eq_true.mp hword c hc)

namespace AbiType

/-- **Blanks around the text of a type** do not matter. -/
theorem parse_trimmed (text : String) (components : Option TupleFields) :
    parse (trimmed text) components = parse text components := by
  rw [parse, parse, trimmed, String.toList_ofList, parseChars, parseChars.eq_def _ text.toList]
  dsimp only
  rw [trimBlanks_trimBlanks]

/-- Without components, no text of a type begins like the word for tuples. -/
theorem IsTypeText.head_ne {plus : Bool} {text : List Char} {type : AbiType}
    (h : IsTypeText plus none text type) : ∃ c rest, text = c :: rest ∧ c ≠ 't' := by
  induction h with
  | base h =>
    cases h with
    | tuple h => cases h
    | _ => exact ⟨_, _, rfl, by decide⟩
  | suffix _ _ _ ih =>
    obtain ⟨c, rest, rfl, hc⟩ := ih
    exact ⟨c, _, rfl, hc⟩

/-- A tuple is not read without components. -/
theorem exists_parse_eq_error {text : String} (h : "tuple".toList <+: trimBlanks text.toList) :
    ∃ fault, parse text none = .error fault := by
  cases hparse : parse text none with
  | error fault => exact ⟨fault, rfl⟩
  | ok type =>
    obtain ⟨lead, core, trail, htext, hlead, htrail, hcore⟩ := parseChars_eq_ok_iff.mp hparse
    rw [htext, trimBlanks_append hlead htrail hcore.hasSolidEnds] at h
    obtain ⟨c, rest, rfl, hc⟩ := hcore.head_ne
    exact absurd (List.cons_prefix_cons.mp h).1.symm hc

end AbiType

/-! ### Replacing members -/

namespace Json

/-- A value with another one for its member of the given name, if it has such a member. -/
def withMember (value : Json) (name : String) (found : Json) : Json :=
  match value with
  | .object members =>
    .object (members.map fun member => if member.1 = name then (name, found) else member)
  | other => other

variable {value found : Json} {name : String}

theorem isObject_withMember : (value.withMember name found).isObject = value.isObject := by
  cases value <;> rfl

theorem get?_withMember (other : String) : (value.withMember name found).get? other =
    if other = name then (value.get? name).map fun _ => found else value.get? other := by
  cases value with
  | object members =>
    change (members.map _).lookup other =
      if other = name then (members.lookup name).map fun _ => found else members.lookup other
    induction members with
    | nil => split <;> rfl
    | cons member rest ih =>
      obtain ⟨key, old⟩ := member
      rw [List.map_cons, List.lookup_cons, List.lookup_cons, List.lookup_cons, ih]
      by_cases hkey : key = name
      · subst hkey
        by_cases hother : other = key
        · simp [hother]
        · simp [hother, beq_eq_false_iff_ne.mpr hother]
      · by_cases hother : other = name
        · simp [hkey, hother, beq_eq_false_iff_ne.mpr (Ne.symm hkey)]
        · simp [hkey, hother]
  | null | bool _ | number _ | string _ | array _ => split <;> rfl

/-- The other members stay. -/
theorem member?_withMember_of_ne {α : Type} (cast : Json → Option α) (kind : MemberKind)
    {other : String} (h : other ≠ name) :
    (value.withMember name found).member? cast kind other = value.member? cast kind other := by
  rw [member?, member?, get?_withMember, if_neg h]

/-- A member that is replaced by null is not given. -/
theorem given?_withMember_null : (value.withMember name .null).given? name = none := by
  rw [given?, get?_withMember, if_pos rfl]
  cases value.get? name <;> rfl

/-- A member that is there is replaced. -/
theorem given?_withMember {old : Json} (h : value.given? name = some old) (hfound : found ≠ .null) :
    (value.withMember name found).given? name = some found := by
  obtain ⟨member, hmember, -⟩ := Option.bind_eq_some_iff.mp h
  rw [given?, get?_withMember, if_pos rfl, hmember]
  cases found with
  | null => exact absurd rfl hfound
  | bool _ | number _ | string _ | array _ | object _ => rfl

end Json

/-! ### Trimming the type of a parameter -/

namespace Json

/-- A parameter with the text of its type trimmed. -/
def trimType (parameter : Json) : Json :=
  match parameter.given? "type" with
  | some (.string text) => parameter.withMember "type" (.string (trimmed text))
  | _ => parameter

/-- A parameter whose components are not given. -/
def withoutComponents (parameter : Json) : Json := parameter.withMember "components" .null

/-- **Hidden components**: the components of a parameter whose type begins with blanks and the word
for tuples. -/
def HidesComponents (parameter : Json) : Prop :=
  ∃ text, parameter.given? "type" = some (.string text) ∧ ¬"tuple".toList <+: text.toList ∧
    "tuple".toList <+: trimBlanks text.toList ∧ parameter.given? "components" ≠ none

/-- **A type is trimmed** in a value: that of the parameter, which is the value itself, a component
of it, or a component of a component. -/
inductive TrimsType (parameter : Json) : Json → Json → Prop
  /-- The parameter itself. -/
  | self : TrimsType parameter parameter parameter.trimType
  /-- One of the components. -/
  | component {value item other : Json} {before after : List Json}
      (hgiven : value.given? "components" = some (.array (before ++ item :: after)))
      (h : TrimsType parameter item other) :
      TrimsType parameter value (value.withMember "components" (.array (before ++ other :: after)))

end Json

namespace ParameterHeader

/-- A header with the text of its type trimmed. -/
def trimType (header : ParameterHeader) : ParameterHeader :=
  { header with typeText := trimmed header.typeText }

theorem readsComponents_trimType_iff {header : ParameterHeader} :
    header.trimType.readsComponents = true ↔
      "tuple".toList <+: trimBlanks header.typeText.toList := by
  have htext : header.trimType.typeText.toList = trimBlanks header.typeText.toList :=
    String.toList_ofList
  rw [readsComponents_iff, htext]

theorem withComponents_trimType (header : ParameterHeader) (components : Option TupleFields) :
    header.trimType.withComponents components = header.withComponents components := by
  rw [withComponents, withComponents, trimType, AbiType.parse_trimmed]

/-- Where there is a type, the other members are read after it. -/
theorem ofJson_eq_of_given? {value : Json} {text : String}
    (h : value.given? "type" = some (.string text)) :
    ofJson value = value.textMember "name" >>= fun name =>
      value.textMember "internalType" >>= fun internalType =>
        value.boolMember "indexed" >>= fun indexed =>
          .ok ⟨name.getD "", text, internalType, indexed.getD false⟩ := by
  have htype : value.textMember "type" = .ok (some text) := Json.textMember_eq_ok_iff.mpr h
  rw [ofJson, Json.isObject_of_given? h, htype]
  rfl

/-- The text in a header is that of the type. -/
theorem typeText_eq {value : Json} {header : ParameterHeader} {text : String}
    (hheader : ofJson value = .ok header) (htype : value.given? "type" = some (.string text)) :
    header.typeText = text := by
  rw [(ofJson_eq_ok_iff.mp hheader).typeText] at htype
  exact Json.string.inj (Option.some.inj htype)

/-- Trimming a type trims it in the header. -/
theorem ofJson_trimType (parameter : Json) :
    ofJson parameter.trimType = trimType <$> ofJson parameter := by
  rw [Json.trimType]
  split
  · rename_i text htype
    have htrimmed : (parameter.withMember "type" (.string (trimmed text))).given? "type" =
        some (.string (trimmed text)) := Json.given?_withMember htype (by simp)
    rw [ofJson_eq_of_given? htype, ofJson_eq_of_given? htrimmed]
    simp (disch := decide) only [Json.textMember, Json.boolMember, Json.member?_withMember_of_ne]
    cases parameter.member? Json.text? .string "name" with
    | error _ => rfl
    | ok _ =>
      cases parameter.member? Json.text? .string "internalType" with
      | error _ => rfl
      | ok _ => cases parameter.member? Json.bool? .boolean "indexed" <;> rfl
  · rename_i htype
    cases hheader : ofJson parameter with
    | error _ => rfl
    | ok header => exact absurd (ofJson_eq_ok_iff.mp hheader).typeText (htype header.typeText)

/-- Components are no part of a header. -/
theorem ofJson_withMember_components (value found : Json) :
    ofJson (value.withMember "components" found) = ofJson value := by
  simp (disch := decide) only [ofJson, Json.isObject_withMember, Json.textMember, Json.boolMember,
    Json.member?_withMember_of_ne]

end ParameterHeader

/-! ### Reading parameters -/

namespace Json

/-- The components stay when the type is trimmed. -/
theorem arrayMember_trimType (parameter : Json) :
    parameter.trimType.arrayMember "components" = parameter.arrayMember "components" := by
  rw [trimType]
  split
  · exact member?_withMember_of_ne _ _ (by decide)
  · rfl

theorem arrayMember_withoutComponents (parameter : Json) :
    parameter.withoutComponents.arrayMember "components" = .ok none :=
  arrayMember_eq_ok_iff.mpr given?_withMember_null

end Json

namespace AbiParameter

variable {parameter value item other : Json} {header : ParameterHeader}

/-- Without components, only the text of the type counts. -/
theorem ofJson_withoutComponents (parameter : Json) :
    ofJson parameter.withoutComponents =
      ParameterHeader.ofJson parameter >>= fun header => header.withComponents none := by
  rw [ofJson_eq, Json.withoutComponents, ParameterHeader.ofJson_withMember_components,
    ← Json.withoutComponents, Json.arrayMember_withoutComponents]
  refine congrArg _ (funext fun header => ?_)
  exact ite_self _

/-- Components are read where the text of the type begins with the word for tuples. -/
theorem ofJson_of_readsComponents (hheader : ParameterHeader.ofJson value = .ok header)
    (hreads : header.readsComponents = true) :
    ofJson value = value.arrayMember "components" >>= fun
      | some items => items.mapM ofJson >>= fun parameters =>
        header.withComponents (some (parameters.map field))
      | none => header.withComponents none := by
  rw [ofJson_eq, hheader]
  exact if_pos hreads

theorem ofJson_of_not_readsComponents (hheader : ParameterHeader.ofJson value = .ok header)
    (hreads : ¬header.readsComponents = true) : ofJson value = header.withComponents none := by
  rw [ofJson_eq, hheader]
  exact if_neg hreads

/-- A parameter without a header is not read. -/
theorem ofJson_of_header_error {fault : BindError}
    (hheader : ParameterHeader.ofJson value = .error fault) : ofJson value = .error fault := by
  rw [ofJson_eq, hheader]
  rfl

/-- **Blanks do not matter** where they hide no components. -/
theorem ofJson_trimType (h : ¬parameter.HidesComponents) :
    ofJson parameter = ofJson parameter.trimType := by
  have hother := ParameterHeader.ofJson_trimType parameter
  cases hheader : ParameterHeader.ofJson parameter with
  | error _ =>
    rw [hheader] at hother
    rw [ofJson_of_header_error hheader, ofJson_of_header_error hother]
  | ok header =>
    rw [hheader] at hother
    by_cases hreads : header.readsComponents = true
    · have htrimmed : header.trimType.readsComponents = true :=
        ParameterHeader.readsComponents_trimType_iff.mpr <|
          prefix_trimBlanks (fun _ => isBlank_of_mem_tuple)
            (ParameterHeader.readsComponents_iff.mp hreads)
      -- the same components and a text that is parsed alike
      rw [ofJson_of_readsComponents hheader hreads, ofJson_of_readsComponents hother htrimmed,
        Json.arrayMember_trimType]
      simp only [header.withComponents_trimType]
    rw [ofJson_of_not_readsComponents hheader hreads]
    by_cases htrimmed : header.trimType.readsComponents = true
    · -- the word for tuples comes in front, but there are no components
      have habsent : parameter.given? "components" = none := by
        by_contra hgiven
        exact h ⟨header.typeText, (ParameterHeader.ofJson_eq_ok_iff.mp hheader).typeText,
          mt ParameterHeader.readsComponents_iff.mpr hreads,
          ParameterHeader.readsComponents_trimType_iff.mp htrimmed, hgiven⟩
      have harray : parameter.arrayMember "components" = .ok none :=
        Json.arrayMember_eq_ok_iff.mpr habsent
      rw [ofJson_of_readsComponents hother htrimmed, Json.arrayMember_trimType, harray]
      exact (header.withComponents_trimType none).symm
    · rw [ofJson_of_not_readsComponents hother htrimmed, header.withComponents_trimType]

/-- Hidden components are not looked at. -/
theorem ofJson_of_hidesComponents (h : parameter.HidesComponents) :
    ofJson parameter =
      ParameterHeader.ofJson parameter >>= fun header => header.withComponents none := by
  obtain ⟨text, htype, hhidden, -, -⟩ := h
  cases hheader : ParameterHeader.ofJson parameter with
  | error _ => exact ofJson_of_header_error hheader
  | ok header =>
    rw [← ParameterHeader.typeText_eq hheader htype] at hhidden
    exact ofJson_of_not_readsComponents hheader (mt ParameterHeader.readsComponents_iff.mp hhidden)

/-- A parameter that hides its components is not read. -/
theorem exists_ofJson_eq_error (h : parameter.HidesComponents) :
    ∃ fault, ofJson parameter = .error fault := by
  rw [ofJson_of_hidesComponents h]
  obtain ⟨text, htype, -, hstart, -⟩ := h
  cases hheader : ParameterHeader.ofJson parameter with
  | error fault => exact ⟨fault, rfl⟩
  | ok header =>
    rw [← ParameterHeader.typeText_eq hheader htype] at hstart
    obtain ⟨fault, hfault⟩ := AbiType.exists_parse_eq_error hstart
    refine ⟨fault, ?_⟩
    change header.withComponents none = _
    rw [ParameterHeader.withComponents, hfault]
    rfl

/-- A parameter with hidden components is read as if there were none. -/
theorem ofJson_eq_withoutComponents (h : parameter.HidesComponents) :
    ofJson parameter = ofJson parameter.trimType.withoutComponents := by
  rw [ofJson_of_hidesComponents h, ofJson_withoutComponents, ParameterHeader.ofJson_trimType]
  cases ParameterHeader.ofJson parameter with
  | error _ => rfl
  | ok header => exact (header.withComponents_trimType none).symm

/-- What a component is read as is all that matters of it. -/
theorem ofJson_withMember_components {before after : List Json}
    (hgiven : value.given? "components" = some (.array (before ++ item :: after)))
    (h : ofJson item = ofJson other) :
    ofJson value = ofJson (value.withMember "components" (.array (before ++ other :: after))) := by
  have hitems : (before ++ item :: after).mapM ofJson = (before ++ other :: after).mapM ofJson := by
    rw [List.mapM_append, List.mapM_append, List.mapM_cons, List.mapM_cons, h]
  have hold : value.arrayMember "components" = .ok (some (before ++ item :: after)) :=
    Json.arrayMember_eq_ok_iff.mpr hgiven
  have hnew : (value.withMember "components" (.array (before ++ other :: after))).arrayMember
      "components" = .ok (some (before ++ other :: after)) :=
    Json.arrayMember_eq_ok_iff.mpr (Json.given?_withMember hgiven (by simp))
  rw [ofJson_eq, ofJson_eq, ParameterHeader.ofJson_withMember_components, hold, hnew]
  refine congrArg _ (funext fun header => ?_)
  split
  · change ((before ++ item :: after).mapM ofJson >>= _) =
      ((before ++ other :: after).mapM ofJson >>= _)
    rw [hitems]
  · rfl

/-- **Trimming a type** does not change how a parameter is read, except where its components are
hidden and the trimmed parameter is not read the same way without them. A parameter that hides its
components is not read at all. Where trimming changes nothing, it changes nothing for the parameters
around either. -/
theorem ofJson_of_trimsType (h : parameter.TrimsType value other) :
    (ofJson parameter = ofJson parameter.trimType ↔ (parameter.HidesComponents →
      ofJson parameter.trimType = ofJson parameter.trimType.withoutComponents)) ∧
    (parameter.HidesComponents → ∃ fault, ofJson parameter = .error fault) ∧
    (ofJson parameter = ofJson parameter.trimType → ofJson value = ofJson other) := by
  refine ⟨⟨fun heq hhides => ?_, fun heq => ?_⟩, exists_ofJson_eq_error, fun heq => ?_⟩
  · rw [← heq]
    exact ofJson_eq_withoutComponents hhides
  · by_cases hhides : parameter.HidesComponents
    · rw [heq hhides]
      exact ofJson_eq_withoutComponents hhides
    · exact ofJson_trimType hhides
  · -- from the parameter out, through the components it is in
    induction h with
    | self => exact heq
    | component hgiven _ ih => exact ofJson_withMember_components hgiven ih

/-- A parameter with the given text as its type and with components. -/
private def parameterOf (typeText : String) (components : List Json) : Json :=
  .object [("name", .string "p"), ("type", .string typeText), ("components", .array components)]

/-- A parameter with blanks around its type. -/
def spacedNumber : Json := parameterOf "\t uint8 " []

theorem ofJson_of_trimsType_spacedNumber :
    ¬spacedNumber.HidesComponents ∧
      spacedNumber.TrimsType (parameterOf "tuple[]" [spacedNumber])
        (parameterOf "tuple[]" [parameterOf "uint8" []]) ∧
      ofJson (parameterOf "tuple[]" [spacedNumber]) =
        ofJson (parameterOf "tuple[]" [parameterOf "uint8" []]) := by
  have hshown : ¬spacedNumber.HidesComponents := by
    rintro ⟨text, htype, -, hstart, -⟩
    cases htype
    exact absurd hstart (by decide)
  have htrims : spacedNumber.TrimsType (parameterOf "tuple[]" [spacedNumber])
      (parameterOf "tuple[]" [parameterOf "uint8" []]) :=
    @Json.TrimsType.component _ _ _ _ [] [] rfl .self
  obtain ⟨hsame, -, hinside⟩ := ofJson_of_trimsType htrims
  exact ⟨hshown, htrims, hinside (hsame.mpr fun hhides => absurd hhides hshown)⟩

/-- A tuple whose type has a blank in front. -/
def spacedTuple : Json := parameterOf " tuple" [parameterOf "uint8" []]

/-- Trimming the type matters where the components are hidden. -/
theorem ofJson_ne_trimType_spacedTuple :
    ∃ parameter, ofJson spacedTuple = .error (.invalidAbi .tupleWithoutComponents) ∧
      ofJson spacedTuple.trimType = .ok parameter ∧ parameter.type.signature = "(uint8)" ∧
      ofJson spacedTuple ≠ ofJson spacedTuple.trimType := by
  have hfails : (match ofJson spacedTuple with
      | .error (.invalidAbi .tupleWithoutComponents) => true
      | _ => false) = true := by decide +kernel
  have hfault : ofJson spacedTuple = .error (.invalidAbi .tupleWithoutComponents) := by
    split at hfails
    · assumption
    · cases hfails
  have hreads : (ofJson spacedTuple.trimType).toOption.map (·.type.signature) = some "(uint8)" := by
    decide +kernel
  obtain ⟨parameter, hparameter, hsignature⟩ := Option.map_eq_some_iff.mp hreads
  rw [except_toOption_eq_some_iff] at hparameter
  refine ⟨parameter, hfault, hparameter, hsignature, ?_⟩
  rw [hfault, hparameter]
  exact fun h => nomatch h

end AbiParameter

end ContractBindings
