import ContractBindings.Abi.Entry
import ContractBindings.Proofs.Abi.TypeText
import ContractBindings.Proofs.Json.Strings
import ContractBindings.Proofs.Related
import ContractBindings.TextMap.Lookup

/-!
# What ABI documents describe

A relation for each reader of ABI documents, which says what a JSON value has to be for the reader
to give a certain result. Readers look at members in a fixed order and stop at the first fault; the
relations have no order.

* `Json.DescribesParameter` — what parameters are read from, components included;
* `Json.DescribesEntry` — what entries are read from;
* `ContractAbi.ofJson_accepts_iff` — reading a contract ABI succeeds exactly on arrays of such
  entries, and its result is made up of what they describe;
* `ContractAbi.isLegal_of_ofJson` — all types of a contract that is read are legal.
-/

namespace ContractBindings

/-! ### Members -/

namespace Json

/-- The member of a name if it is **given**; an absent or null member is not. -/
def given? (value : Json) (name : String) : Option Json :=
  (value.get? name).bind fun
    | .null => none
    | found => some found

/-- Only objects have members. -/
theorem isObject_of_given? {value found : Json} {name : String}
    (h : value.given? name = some found) : value.isObject = true := by
  cases value with
  | object members => rfl
  | null | bool _ | number _ | string _ | array _ => cases h

/-- The member that is read is the one that is given. -/
theorem member?_eq {α : Type} (cast : Json → Option α) (kind : MemberKind) (value : Json)
    (name : String) : value.member? cast kind name =
      match value.given? name with
      | none => .ok none
      | some found =>
        match cast found with
        | some a => .ok (some a)
        | none => .error (.invalidAbi (.wrongMember name kind found)) := by
  rw [member?, given?]
  cases value.get? name with
  | none => rfl
  | some found => cases found <;> rfl

/-- A member is read if it is not given, or given in the form that is asked for. -/
theorem member?_eq_ok_iff {α : Type} {cast : Json → Option α} {make : α → Json}
    (hcast : ∀ found a, cast found = some a ↔ found = make a) {kind : MemberKind} {value : Json}
    {name : String} {result : Option α} :
    value.member? cast kind name = .ok result ↔ value.given? name = result.map make := by
  rw [member?_eq]
  cases value.given? name with
  | none => cases result <;> simp
  | some found =>
    dsimp only
    cases result with
    | none => cases cast found <;> simp
    | some a =>
      rw [Option.map_some, Option.some.injEq, ← hcast]
      cases cast found <;> simp

theorem textMember_eq_ok_iff {value : Json} {name : String} {text : Option String} :
    value.textMember name = .ok text ↔ value.given? name = text.map .string :=
  member?_eq_ok_iff fun found _ => by cases found <;> simp [text?]

theorem boolMember_eq_ok_iff {value : Json} {name : String} {b : Option Bool} :
    value.boolMember name = .ok b ↔ value.given? name = b.map .bool :=
  member?_eq_ok_iff fun found _ => by cases found <;> simp [bool?]

theorem arrayMember_eq_ok_iff {value : Json} {name : String} {items : Option (List Json)} :
    value.arrayMember name = .ok items ↔ value.given? name = items.map .array :=
  member?_eq_ok_iff fun found _ => by cases found <;> simp [items?]

/-- Induction over JSON values, from the items of one member to the value. -/
theorem induct_given (name : String) {P : Json → Prop}
    (step : ∀ value, (∀ items, value.given? name = some (.array items) → ∀ item ∈ items, P item) →
      P value) (value : Json) : P value := by
  -- of an array the property is needed for the items as well: it may be the member
  suffices h : P value ∧ ∀ items, value = .array items → ∀ item ∈ items, P item from h.1
  induction value using Json.induct with
  | null | bool _ | number _ | string _ =>
    exact ⟨step _ fun _ h => (nomatch h), fun _ h => (nomatch h)⟩
  | array items ih =>
    refine ⟨step _ fun _ h => (nomatch h), fun others h => ?_⟩
    cases h
    exact fun item hitem => (ih item hitem).1
  | object members ih =>
    refine ⟨step _ fun items h => ?_, fun _ h => nomatch h⟩
    obtain ⟨found, hfound, hitems⟩ := Option.bind_eq_some_iff.mp h
    have harray : found = .array items := by
      cases found <;> simp_all
    exact (ih _ (TextMap.mem_of_lookup hfound)).2 items harray

end Json

/-! ### Parameters -/

namespace Json

/-- **What a parameter's header is read from**. -/
structure DescribesHeader (value : Json) (header : ParameterHeader) : Prop where
  /-- The name is a text, and empty if it is not given. -/
  name : ∃ name : Option String,
    value.given? "name" = name.map .string ∧ header.name = name.getD ""
  /-- The type is a text. -/
  typeText : value.given? "type" = some (.string header.typeText)
  /-- The type of the source is a text, if it is given. -/
  internalType : value.given? "internalType" = header.internalType.map .string
  /-- The flag for topics is a truth value, and false if it is not given. -/
  indexed : ∃ indexed : Option Bool,
    value.given? "indexed" = indexed.map .bool ∧ header.indexed = indexed.getD false

/-- **What a parameter is read from**: a header, the components of the type if its text starts
with the word for tuples, and a text that is that of a type with these components. -/
inductive DescribesParameter : Json → AbiParameter → Prop
  /-- A parameter whose components are not looked at, or not given. -/
  | plain {value : Json} {header : ParameterHeader} {type : AbiType}
      (hheader : value.DescribesHeader header)
      (habsent : "tuple".toList <+: header.typeText.toList → value.given? "components" = none)
      (hparse : AbiType.parse header.typeText none = .ok type) :
      DescribesParameter value ⟨header.name, type, header.internalType, header.indexed⟩
  /-- A parameter with components, which are parameters themselves. -/
  | tuple {value : Json} {header : ParameterHeader} {type : AbiType} {items : List Json}
      {parameters : List AbiParameter}
      (hheader : value.DescribesHeader header)
      (hstart : "tuple".toList <+: header.typeText.toList)
      (hgiven : value.given? "components" = some (.array items))
      (hitems : List.Forall₂ DescribesParameter items parameters)
      (hparse : AbiType.parse header.typeText (some (parameters.map AbiParameter.field)) =
        .ok type) :
      DescribesParameter value ⟨header.name, type, header.internalType, header.indexed⟩

end Json

theorem ParameterHeader.ofJson_eq_ok_iff {value : Json} {header : ParameterHeader} :
    ofJson value = .ok header ↔ value.DescribesHeader header := by
  rw [ofJson]
  cases hobject : value.isObject with
  | false =>
    refine iff_of_false (fun h => nomatch h) fun h => ?_
    rw [Json.isObject_of_given? h.typeText] at hobject
    cases hobject
  | true =>
    simp only [Bool.not_true, Bool.false_eq_true, if_false, except_bind_eq_ok_iff,
      Json.textMember_eq_ok_iff]
    constructor
    · rintro ⟨name, hname, text, htext, h⟩
      cases text with
      | none => cases h
      | some typeText =>
        simp only [except_bind_eq_ok_iff, Json.textMember_eq_ok_iff, Json.boolMember_eq_ok_iff] at h
        obtain ⟨internalType, hinternal, indexed, hindexed, h⟩ := h
        cases h
        exact ⟨⟨name, hname, rfl⟩, htext, hinternal, ⟨indexed, hindexed, rfl⟩⟩
    · obtain ⟨_, typeText, internalType, _⟩ := header
      rintro ⟨⟨name, hname, rfl⟩, htext, hinternal, ⟨indexed, hindexed, rfl⟩⟩
      refine ⟨name, hname, some typeText, htext, ?_⟩
      simp only [except_bind_eq_ok_iff, Json.textMember_eq_ok_iff, Json.boolMember_eq_ok_iff]
      exact ⟨internalType, hinternal, indexed, hindexed, rfl⟩

theorem ParameterHeader.readsComponents_iff {header : ParameterHeader} :
    header.readsComponents = true ↔ "tuple".toList <+: header.typeText.toList := by
  simp only [readsComponents, Option.isSome_iff_exists, afterStart?_eq_some_iff]
  exact exists_congr fun rest => eq_comm

theorem ParameterHeader.withComponents_eq_ok_iff {header : ParameterHeader}
    {components : Option TupleFields} {parameter : AbiParameter} :
    header.withComponents components = .ok parameter ↔
      ∃ type, AbiType.parse header.typeText components = .ok type ∧
        ⟨header.name, type, header.internalType, header.indexed⟩ = parameter := by
  simp only [withComponents, except_bind_eq_ok_iff, pure, Except.pure, Except.ok.injEq]

namespace AbiParameter

/-- A list of parameters is read one by one, and gives their fields. -/
theorem fieldsOfJson_eq (items : List Json) :
    fieldsOfJson items = List.map field <$> items.mapM ofJson := by
  induction items with
  | nil => rfl
  | cons item rest ih =>
    rw [fieldsOfJson, List.mapM_cons, ih]
    cases ofJson item with
    | error _ => rfl
    | ok _ => cases rest.mapM ofJson <;> rfl

/-- Components are read from a member that is an array. -/
theorem componentsAmong_eq (members : List (String × Json)) :
    componentsAmong members = (Json.object members).arrayMember "components" >>= fun
      | some items => some <$> fieldsOfJson items
      | none => .ok none := by
  induction members with
  | nil => rfl
  | cons member rest ih =>
    obtain ⟨name, value⟩ := member
    rw [componentsAmong]
    by_cases hname : name = "components"
    · have hget : (Json.object ((name, value) :: rest)).get? "components" = some value := by
        simp [Json.get?, hname]
      rw [if_pos hname, Json.arrayMember, Json.member?, hget]
      cases value <;> rfl
    · have hget : (Json.object ((name, value) :: rest)).get? "components" =
          (Json.object rest).get? "components" := by
        simp [Json.get?, List.lookup_cons, beq_eq_false_iff_ne.mpr (Ne.symm hname)]
      rw [if_neg hname, ih, Json.arrayMember, Json.arrayMember, Json.member?, Json.member?, hget]

/-- A parameter is read from its header and, where its type starts with the word for tuples, from
the parameters that are its components. -/
theorem ofJson_eq (value : Json) :
    ofJson value = ParameterHeader.ofJson value >>= fun header =>
      if header.readsComponents then
        value.arrayMember "components" >>= fun
          | some items => items.mapM ofJson >>= fun parameters =>
            header.withComponents (some (parameters.map field))
          | none => header.withComponents none
      else header.withComponents none := by
  rw [ofJson]
  cases value with
  | object members =>
    refine congrArg _ (funext fun header => ?_)
    split
    · dsimp only
      rw [componentsAmong_eq]
      cases (Json.object members).arrayMember "components" with
      | error _ => rfl
      | ok found =>
        cases found with
        | none => rfl
        | some items =>
          change (some <$> fieldsOfJson items >>= header.withComponents) =
            (items.mapM ofJson >>= fun parameters =>
              header.withComponents (some (parameters.map field)))
          rw [fieldsOfJson_eq]
          cases items.mapM ofJson <;> rfl
    · rfl
  | null | bool _ | number _ | string _ | array _ => rfl

/-- **Reading a parameter** succeeds on what describes it. -/
theorem ofJson_eq_ok_iff {value : Json} {parameter : AbiParameter} :
    ofJson value = .ok parameter ↔ value.DescribesParameter parameter := by
  induction value using Json.induct_given "components" generalizing parameter with
  | step value ih =>
    have hitems : ∀ items, value.given? "components" = some (.array items) → ∀ parameters,
        items.mapM ofJson = .ok parameters ↔
          List.Forall₂ Json.DescribesParameter items parameters := fun items hgiven parameters =>
      except_mapM_eq_ok_iff fun item hitem parameter => ih items hgiven item hitem
    simp only [ofJson_eq, except_bind_eq_ok_iff, ParameterHeader.ofJson_eq_ok_iff]
    constructor
    · rintro ⟨header, hheader, h⟩
      split at h
      · rename_i hreads
        obtain ⟨items, hgiven, h⟩ := except_bind_eq_ok_iff.mp h
        rw [Json.arrayMember_eq_ok_iff] at hgiven
        cases items with
        | none =>
          obtain ⟨type, hparse, rfl⟩ := ParameterHeader.withComponents_eq_ok_iff.mp h
          exact .plain hheader (fun _ => hgiven) hparse
        | some items =>
          obtain ⟨parameters, hmap, h⟩ := except_bind_eq_ok_iff.mp h
          obtain ⟨type, hparse, rfl⟩ := ParameterHeader.withComponents_eq_ok_iff.mp h
          exact .tuple hheader (ParameterHeader.readsComponents_iff.mp hreads) hgiven
            ((hitems items hgiven parameters).mp hmap) hparse
      · rename_i hreads
        obtain ⟨type, hparse, rfl⟩ := ParameterHeader.withComponents_eq_ok_iff.mp h
        exact .plain hheader
          (fun hstart => absurd (ParameterHeader.readsComponents_iff.mpr hstart) hreads) hparse
    · rintro (⟨hheader, habsent, hparse⟩ | ⟨hheader, hstart, hgiven, hdescribed, hparse⟩)
      · rename_i header type
        refine ⟨header, hheader, ?_⟩
        have hplain := ParameterHeader.withComponents_eq_ok_iff.mpr ⟨type, hparse, rfl⟩
        split
        · rename_i hreads
          exact except_bind_eq_ok_iff.mpr ⟨none, Json.arrayMember_eq_ok_iff.mpr
            (habsent (ParameterHeader.readsComponents_iff.mp hreads)), hplain⟩
        · exact hplain
      · rename_i header type items parameters
        refine ⟨header, hheader, ?_⟩
        rw [if_pos (ParameterHeader.readsComponents_iff.mpr hstart)]
        exact except_bind_eq_ok_iff.mpr ⟨some items, Json.arrayMember_eq_ok_iff.mpr hgiven,
          except_bind_eq_ok_iff.mpr ⟨parameters, (hitems items hgiven parameters).mpr hdescribed,
            ParameterHeader.withComponents_eq_ok_iff.mpr ⟨type, hparse, rfl⟩⟩⟩

end AbiParameter

/-! ### Entries -/

namespace Json

/-- **What the parameters of an entry are read from**: an array of parameters. An entry without
that member has none. -/
inductive DescribesParameters (entry : Json) (name : String) : List AbiParameter → Prop
  /-- The member is not given. -/
  | absent (hgiven : entry.given? name = none) : DescribesParameters entry name []
  /-- The member is an array. -/
  | array {items : List Json} {parameters : List AbiParameter}
      (hgiven : entry.given? name = some (.array items))
      (hitems : List.Forall₂ DescribesParameter items parameters) :
      DescribesParameters entry name parameters

/-- **What a mutability is read from**: its own word, or else two older flags. They have to be
truth values even where the word is given and they do not count. -/
def DescribesMutability (entry : Json) (mutability : StateMutability) : Prop :=
  ∃ constant payable : Option Bool,
    entry.given? "constant" = constant.map .bool ∧ entry.given? "payable" = payable.map .bool ∧
      (entry.given? "stateMutability" = some (.string mutability.text) ∨
        entry.given? "stateMutability" = none ∧
          mutability = if constant.getD false then .view
            else if payable.getD false then .payable else .nonpayable)

/-- **What a function or constructor is read from**, its name apart. -/
structure DescribesFunction (entry : Json) (f : AbiFunction) : Prop where
  /-- The inputs. -/
  inputs : entry.DescribesParameters "inputs" f.inputs
  /-- The outputs. -/
  outputs : entry.DescribesParameters "outputs" f.outputs
  /-- The mutability. -/
  mutability : entry.DescribesMutability f.mutability

/-- **What an entry is read from**. -/
inductive DescribesEntry (entry : Json) : AbiEntry → Prop
  /-- A constructor; its name is empty if it is not given. -/
  | constructor {f : AbiFunction} {name : Option String}
      (hkind : entry.given? "type" = some (.string "constructor"))
      (hname : entry.given? "name" = name.map .string) (hempty : f.name = name.getD "")
      (h : entry.DescribesFunction f) : DescribesEntry entry (.constructor f)
  /-- A function; an entry without a kind is one. -/
  | function {f : AbiFunction}
      (hkind : entry.given? "type" = none ∨ entry.given? "type" = some (.string "function"))
      (hname : entry.given? "name" = some (.string f.name)) (h : entry.DescribesFunction f) :
      DescribesEntry entry (.function f)
  /-- An event; it is not anonymous unless it says so. -/
  | event {e : AbiEvent} {anonymous : Option Bool}
      (hkind : entry.given? "type" = some (.string "event"))
      (hname : entry.given? "name" = some (.string e.name))
      (hinputs : entry.DescribesParameters "inputs" e.inputs)
      (hanonymous : entry.given? "anonymous" = anonymous.map .bool)
      (hfalse : e.anonymous = anonymous.getD false) : DescribesEntry entry (.event e)
  /-- An entry without a binding, whatever else is in it. -/
  | unbound {kind : String} (hkind : entry.given? "type" = some (.string kind))
      (hunbound : kind ∈ ["error", "fallback", "receive"]) : DescribesEntry entry .unbound

/-- What describes an entry has a member, so it is an object. -/
theorem DescribesEntry.isObject {item : Json} {entry : AbiEntry} (h : item.DescribesEntry entry) :
    item.isObject = true := by
  cases h with
  | constructor hkind | event hkind | unbound hkind => exact isObject_of_given? hkind
  | function _ hname => exact isObject_of_given? hname

end Json

theorem AbiParameter.listOfMember_eq_ok_iff {entry : Json} {name : String}
    {parameters : List AbiParameter} :
    listOfMember entry name = .ok parameters ↔ entry.DescribesParameters name parameters := by
  have hitems : ∀ items, items.mapM ofJson = .ok parameters ↔
      List.Forall₂ Json.DescribesParameter items parameters := fun items =>
    except_mapM_eq_ok_iff fun _ _ _ => ofJson_eq_ok_iff
  simp only [listOfMember, except_bind_eq_ok_iff, Json.arrayMember_eq_ok_iff]
  constructor
  · rintro ⟨items, hgiven, h⟩
    cases items with
    | none =>
      cases h
      exact .absent hgiven
    | some items => exact .array hgiven ((hitems items).mp h)
  · rintro (hgiven | ⟨hgiven, h⟩)
    · exact ⟨none, hgiven, rfl⟩
    · exact ⟨some _, hgiven, (hitems _).mpr h⟩

theorem StateMutability.ofText?_eq_some_iff {text : String} {mutability : StateMutability} :
    ofText? text = some mutability ↔ text = mutability.text := by
  refine ⟨fun h => ?_, fun h => h ▸ ofText?_text mutability⟩
  have hsame := List.find?_some h
  exact (beq_iff_eq.mp hsame).symm

theorem StateMutability.decide_eq_ok_iff {word : Option String} {constant payable : Bool}
    {mutability : StateMutability} :
    decide word constant payable = .ok mutability ↔
      word = some mutability.text ∨
        word = none ∧ mutability = if constant then .view else if payable then .payable
          else .nonpayable := by
  cases word with
  | none => simp [decide, eq_comm]
  | some text =>
    rw [decide, Option.some.injEq, ← ofText?_eq_some_iff, or_iff_left fun h => nomatch h.1]
    cases ofText? text <;> simp

theorem AbiFunction.ofNamedJson_eq_ok_iff {name : String} {entry : Json} {f : AbiFunction} :
    ofNamedJson name entry = .ok f ↔ f.name = name ∧ entry.DescribesFunction f := by
  simp only [ofNamedJson, except_bind_eq_ok_iff, AbiParameter.listOfMember_eq_ok_iff,
    Json.boolMember_eq_ok_iff, Json.textMember_eq_ok_iff, StateMutability.decide_eq_ok_iff]
  constructor
  · rintro ⟨inputs, hinputs, outputs, houtputs, constant, hconstant, payable, hpayable, word, hword,
      mutability, hmutability, h⟩
    cases h
    refine ⟨rfl, hinputs, houtputs, constant, payable, hconstant, hpayable, ?_⟩
    rcases hmutability with rfl | ⟨rfl, hflags⟩
    · exact .inl hword
    · exact .inr ⟨hword, hflags⟩
  · obtain ⟨_, inputs, outputs, mutability⟩ := f
    rintro ⟨rfl, hinputs, houtputs, constant, payable, hconstant, hpayable, hmutability⟩
    rcases hmutability with hword | ⟨hword, hflags⟩
    · exact ⟨inputs, hinputs, outputs, houtputs, constant, hconstant, payable, hpayable,
        some mutability.text, hword, mutability, .inl rfl, rfl⟩
    · exact ⟨inputs, hinputs, outputs, houtputs, constant, hconstant, payable, hpayable,
        none, hword, mutability, .inr ⟨rfl, hflags⟩, rfl⟩

theorem AbiFunction.ofJson_eq_ok_iff {entry : Json} {f : AbiFunction} :
    ofJson entry = .ok f ↔
      entry.given? "name" = some (.string f.name) ∧ entry.DescribesFunction f := by
  simp only [ofJson, except_bind_eq_ok_iff, Json.textMember_eq_ok_iff]
  constructor
  · rintro ⟨name, hname, h⟩
    cases name with
    | none => cases h
    | some name =>
      obtain ⟨heq, hdescribed⟩ := ofNamedJson_eq_ok_iff.mp h
      exact ⟨heq ▸ hname, hdescribed⟩
  · rintro ⟨hname, h⟩
    exact ⟨some f.name, hname, ofNamedJson_eq_ok_iff.mpr ⟨rfl, h⟩⟩

theorem AbiFunction.constructorOfJson_eq_ok_iff {entry : Json} {f : AbiFunction} :
    constructorOfJson entry = .ok f ↔
      ∃ name : Option String, entry.given? "name" = name.map .string ∧ f.name = name.getD "" ∧
        entry.DescribesFunction f := by
  simp only [constructorOfJson, except_bind_eq_ok_iff, Json.textMember_eq_ok_iff,
    ofNamedJson_eq_ok_iff]

theorem AbiEvent.ofJson_eq_ok_iff {entry : Json} {e : AbiEvent} :
    ofJson entry = .ok e ↔
      entry.given? "name" = some (.string e.name) ∧ entry.DescribesParameters "inputs" e.inputs ∧
        ∃ anonymous : Option Bool,
          entry.given? "anonymous" = anonymous.map .bool ∧ e.anonymous = anonymous.getD false := by
  simp only [ofJson, except_bind_eq_ok_iff, Json.textMember_eq_ok_iff]
  constructor
  · rintro ⟨name, hname, h⟩
    cases name with
    | none => cases h
    | some name =>
      simp only [except_bind_eq_ok_iff, AbiParameter.listOfMember_eq_ok_iff,
        Json.boolMember_eq_ok_iff] at h
      obtain ⟨inputs, hinputs, anonymous, hanonymous, h⟩ := h
      cases h
      exact ⟨hname, hinputs, anonymous, hanonymous, rfl⟩
  · obtain ⟨name, inputs, _⟩ := e
    rintro ⟨hname, hinputs, anonymous, hanonymous, rfl⟩
    refine ⟨some name, hname, ?_⟩
    simp only [except_bind_eq_ok_iff, AbiParameter.listOfMember_eq_ok_iff,
      Json.boolMember_eq_ok_iff]
    exact ⟨inputs, hinputs, anonymous, hanonymous, rfl⟩

/-- What an entry is read from describes it. -/
theorem AbiEntry.describesEntry_of_ofJson {item : Json} {entry : AbiEntry}
    (h : ofJson item = .ok entry) : item.DescribesEntry entry := by
  rw [ofJson] at h
  split at h
  · cases h
  obtain ⟨kind, hkind, h⟩ := except_bind_eq_ok_iff.mp h
  rw [Json.textMember_eq_ok_iff] at hkind
  -- only the kind of functions can be left out
  have hword : ∀ word, kind.getD "function" = word → word ≠ "function" →
      item.given? "type" = some (.string word) := by
    rintro word rfl hne
    cases kind with
    | none => exact absurd rfl hne
    | some word => exact hkind
  dsimp only at h
  split at h
  · rename_i hconstructor
    obtain ⟨f, hf, h⟩ := except_bind_eq_ok_iff.mp h
    obtain ⟨name, hname, hempty, hdescribed⟩ := AbiFunction.constructorOfJson_eq_ok_iff.mp hf
    cases h
    exact .constructor (hword _ hconstructor (by decide)) hname hempty hdescribed
  split at h
  · rename_i hfunction
    obtain ⟨f, hf, h⟩ := except_bind_eq_ok_iff.mp h
    obtain ⟨hname, hdescribed⟩ := AbiFunction.ofJson_eq_ok_iff.mp hf
    cases h
    refine .function ?_ hname hdescribed
    cases kind with
    | none => exact .inl hkind
    | some word => exact .inr (hkind.trans (congrArg _ (congrArg _ hfunction)))
  split at h
  · rename_i hevent
    obtain ⟨e, he, h⟩ := except_bind_eq_ok_iff.mp h
    obtain ⟨hname, hinputs, anonymous, hanonymous, hfalse⟩ := AbiEvent.ofJson_eq_ok_iff.mp he
    cases h
    exact .event (hword _ hevent (by decide)) hname hinputs hanonymous hfalse
  split at h
  · rename_i hfunction _ hunbound
    cases h
    exact .unbound (hword _ rfl hfunction) hunbound
  · cases h

/-- What describes an entry is read as it. -/
theorem AbiEntry.ofJson_of_describesEntry {item : Json} {entry : AbiEntry}
    (h : item.DescribesEntry entry) : ofJson item = .ok entry := by
  rw [ofJson, h.isObject]
  -- the kind that is read selects the branch
  have hread : ∀ kind : Option String, item.given? "type" = kind.map .string →
      item.textMember "type" = .ok kind := fun _ => Json.textMember_eq_ok_iff.mpr
  cases h with
  | constructor hkind hname hempty hdescribed =>
    have hf := AbiFunction.constructorOfJson_eq_ok_iff.mpr ⟨_, hname, hempty, hdescribed⟩
    exact except_bind_eq_ok_iff.mpr ⟨some "constructor", hread _ hkind,
      except_bind_eq_ok_iff.mpr ⟨_, hf, rfl⟩⟩
  | function hkind hname hdescribed =>
    have hf := AbiFunction.ofJson_eq_ok_iff.mpr ⟨hname, hdescribed⟩
    rcases hkind with hkind | hkind
    · exact except_bind_eq_ok_iff.mpr ⟨none, hread _ hkind,
        except_bind_eq_ok_iff.mpr ⟨_, hf, rfl⟩⟩
    · exact except_bind_eq_ok_iff.mpr ⟨some "function", hread _ hkind,
        except_bind_eq_ok_iff.mpr ⟨_, hf, rfl⟩⟩
  | event hkind hname hinputs hanonymous hfalse =>
    have he := AbiEvent.ofJson_eq_ok_iff.mpr ⟨hname, hinputs, _, hanonymous, hfalse⟩
    exact except_bind_eq_ok_iff.mpr ⟨some "event", hread _ hkind,
      except_bind_eq_ok_iff.mpr ⟨_, he, rfl⟩⟩
  | @unbound kind hkind hunbound =>
    rw [hread (some kind) hkind]
    simp only [List.mem_cons, List.not_mem_nil, or_false] at hunbound
    rcases hunbound with rfl | rfl | rfl <;> rfl

/-- **Reading an entry** succeeds on what describes it. -/
theorem AbiEntry.ofJson_eq_ok_iff {item : Json} {entry : AbiEntry} :
    ofJson item = .ok entry ↔ item.DescribesEntry entry :=
  ⟨describesEntry_of_ofJson, ofJson_of_describesEntry⟩

/-! ### Contracts -/

namespace AbiEntry

/-- The function that an entry declares. -/
def function? : AbiEntry → Option AbiFunction
  | function f => some f
  | _ => none

/-- The event that an entry declares. -/
def event? : AbiEntry → Option AbiEvent
  | event e => some e
  | _ => none

/-- The constructor that an entry declares. -/
def constructor? : AbiEntry → Option AbiFunction
  | constructor f => some f
  | _ => none

/-- The parameters in an entry, inputs before outputs. -/
def parameters : AbiEntry → List AbiParameter
  | constructor f => f.parameters
  | function f => f.parameters
  | event e => e.inputs
  | unbound => []

variable {entry : AbiEntry}

theorem function?_eq_some_iff {f : AbiFunction} :
    entry.function? = some f ↔ entry = .function f := by
  cases entry <;> simp [function?]

theorem event?_eq_some_iff {e : AbiEvent} : entry.event? = some e ↔ entry = .event e := by
  cases entry <;> simp [event?]

theorem constructor?_eq_some_iff {f : AbiFunction} :
    entry.constructor? = some f ↔ entry = .constructor f := by
  cases entry <;> simp [constructor?]

end AbiEntry

namespace ContractAbi

theorem ofJson_eq_ok_iff {value : Json} {abi : ContractAbi} :
    ofJson value = .ok abi ↔
      ∃ items entries, value = .array items ∧ List.Forall₂ Json.DescribesEntry items entries ∧
        ofEntries entries = abi := by
  have hitems : ∀ items entries, items.mapM AbiEntry.ofJson = .ok entries ↔
      List.Forall₂ Json.DescribesEntry items entries := fun items entries =>
    except_mapM_eq_ok_iff fun _ _ _ => AbiEntry.ofJson_eq_ok_iff
  cases value with
  | array items => simp [ofJson, except_map_eq_ok_iff, hitems]
  | null | bool _ | number _ | string _ | object _ => simp [ofJson]

/-- **Accepted documents**: reading a contract ABI succeeds exactly on arrays of objects that
describe entries. The functions and events are then those of the entries in their order, and the
constructor is that of the last entry for one. -/
theorem ofJson_accepts_iff (value : Json) :
    ((∃ abi, ofJson value = .ok abi) ↔
      ∃ items, value = .array items ∧
        ∀ item ∈ items, item.isObject = true ∧ ∃ entry, item.DescribesEntry entry) ∧
    ∀ abi, ofJson value = .ok abi ↔
      ∃ items entries, value = .array items ∧ List.Forall₂ Json.DescribesEntry items entries ∧
        abi.functions = entries.filterMap AbiEntry.function? ∧
        abi.events = entries.filterMap AbiEntry.event? ∧
        abi.constructor = (entries.filterMap AbiEntry.constructor?).getLast? := by
  have haccepted : (∃ abi, ofJson value = .ok abi) ↔ ∃ items, value = .array items ∧
      ∃ entries, List.Forall₂ Json.DescribesEntry items entries := by
    simp only [ofJson_eq_ok_iff]
    constructor
    · rintro ⟨_, items, entries, hvalue, h, -⟩
      exact ⟨items, hvalue, entries, h⟩
    · rintro ⟨items, hvalue, entries, h⟩
      exact ⟨_, items, entries, hvalue, h, rfl⟩
  constructor
  · rw [haccepted]
    refine exists_congr fun items => and_congr_right fun _ => exists_forall₂_iff.trans ?_
    exact forall₂_congr fun item _ => ⟨fun ⟨entry, h⟩ => ⟨h.isObject, entry, h⟩, And.right⟩
  · intro abi
    rw [ofJson_eq_ok_iff]
    refine exists₂_congr fun items entries => and_congr_right fun _ => and_congr_right fun _ => ?_
    constructor
    · rintro rfl
      exact ⟨rfl, rfl, rfl⟩
    · obtain ⟨_, _, _⟩ := abi
      rintro ⟨rfl, rfl, rfl⟩
      rfl

end ContractAbi

/-! ### Legality -/

/-- The type of a parameter that a document describes is legal. -/
theorem Json.DescribesParameter.isLegal {value : Json} {parameter : AbiParameter}
    (h : value.DescribesParameter parameter) : parameter.type.IsLegal := by
  induction value using Json.induct_given "components" generalizing parameter with
  | step value ih =>
    cases h with
    | plain _ _ hparse => exact AbiType.isLegal_of_parse (by simp) hparse
    | @tuple _ _ _ items parameters _ _ hgiven hitems hparse =>
      refine AbiType.isLegal_of_parse (fun fields hfields field hfield => ?_) hparse
      cases hfields
      obtain ⟨component, hcomponent, rfl⟩ := List.mem_map.mp hfield
      obtain ⟨item, hitem, hdescribed⟩ := exists_mem_of_forall₂ hitems hcomponent
      exact ih items hgiven item hitem hdescribed

theorem Json.DescribesParameters.isLegal {entry : Json} {name : String}
    {parameters : List AbiParameter} (h : entry.DescribesParameters name parameters) :
    ∀ parameter ∈ parameters, parameter.type.IsLegal := by
  intro parameter hparameter
  cases h with
  | absent => exact absurd hparameter List.not_mem_nil
  | array _ hitems =>
    obtain ⟨item, -, hdescribed⟩ := exists_mem_of_forall₂ hitems hparameter
    exact hdescribed.isLegal

theorem Json.DescribesFunction.isLegal {entry : Json} {f : AbiFunction}
    (h : entry.DescribesFunction f) : ∀ parameter ∈ f.parameters, parameter.type.IsLegal :=
  List.forall_mem_append.mpr ⟨h.inputs.isLegal, h.outputs.isLegal⟩

theorem Json.DescribesEntry.isLegal {item : Json} {entry : AbiEntry}
    (h : item.DescribesEntry entry) : ∀ parameter ∈ entry.parameters, parameter.type.IsLegal := by
  cases h with
  | constructor _ _ _ hfunction => exact hfunction.isLegal
  | function _ _ hfunction => exact hfunction.isLegal
  | event _ _ hinputs => exact hinputs.isLegal
  | unbound => exact fun _ h => absurd h List.not_mem_nil

/-- **Accepted contracts are legal**: every type that is read has widths and array lengths that a
contract can declare. -/
theorem ContractAbi.isLegal_of_ofJson {value : Json} {abi : ContractAbi}
    (h : ofJson value = .ok abi) : abi.IsLegal := by
  obtain ⟨items, entries, rfl, hitems, rfl⟩ := ofJson_eq_ok_iff.mp h
  have hentries : ∀ entry ∈ entries, ∀ parameter ∈ entry.parameters, parameter.type.IsLegal := by
    intro entry hentry
    obtain ⟨item, -, hdescribed⟩ := exists_mem_of_forall₂ hitems hentry
    exact hdescribed.isLegal
  refine ⟨fun f hf => ?_, fun f hf => ?_, fun e he => ?_⟩
  · obtain ⟨entry, hentry, heq⟩ := List.mem_filterMap.mp (List.mem_of_getLast? hf)
    obtain rfl := AbiEntry.constructor?_eq_some_iff.mp heq
    exact hentries _ hentry
  · obtain ⟨entry, hentry, heq⟩ := List.mem_filterMap.mp hf
    obtain rfl := AbiEntry.function?_eq_some_iff.mp heq
    exact hentries _ hentry
  · obtain ⟨entry, hentry, heq⟩ := List.mem_filterMap.mp he
    obtain rfl := AbiEntry.event?_eq_some_iff.mp heq
    exact hentries _ hentry

end ContractBindings
