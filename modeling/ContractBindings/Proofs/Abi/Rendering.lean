import ContractBindings.Proofs.Abi.Description

/-!
# Writing ABI documents

The standard form of a contract ABI as a JSON value. A parameter is written with the text of its
type, and the fields of the innermost tuple stand beside it as parameters again. The members of an
object are listed in ascending order of their names, as a reader of documents lists them.

An array lists a contract (`ContractAbi.Listing`) if the functions stand in it in their order and so
do the events; how they are interleaved, and where entries without a binding stand between them, is
left open. From every such array the contract is read back (`ContractAbi.ofJson_of_listing`).
-/

namespace ContractBindings

/-! ### Parameters -/

/-- A tuple's field as a parameter. -/
def AbiParameter.ofField (field : String × AbiType) : AbiParameter :=
  ⟨field.1, field.2, none, false⟩

/-- A parameter as a JSON value, given the components of its type, if it has any. -/
def AbiParameter.objectWith (parameter : AbiParameter) (components : Option (List Json)) : Json :=
  .object ((components.toList.map fun items => ("components", .array items)) ++
    [("indexed", .bool parameter.indexed)] ++
    (parameter.internalType.toList.map fun text => ("internalType", .string text)) ++
    [("name", .string parameter.name), ("type", .string parameter.type.text)])

namespace AbiType

mutual

/-- The components that stand beside the text of a type: the fields of its innermost tuple. -/
def componentsJson : AbiType → Option (List Json)
  | elementary _ => none
  | array element _ => componentsJson element
  | slice element => componentsJson element
  | tuple fields => some (fieldsJson fields)

/-- The fields of a tuple as parameters. -/
def fieldsJson : TupleFields → List Json
  | [] => []
  | (name, type) :: rest =>
    (AbiParameter.ofField (name, type)).objectWith (componentsJson type) :: fieldsJson rest

end

end AbiType

/-- A **parameter** as a JSON value. -/
def AbiParameter.toJson (parameter : AbiParameter) : Json :=
  parameter.objectWith parameter.type.componentsJson

theorem AbiType.fieldsJson_eq (fields : TupleFields) :
    fieldsJson fields = fields.map fun field => (AbiParameter.ofField field).toJson := by
  induction fields with
  | nil => rfl
  | cons field rest ih =>
    rw [fieldsJson, ih]
    rfl

theorem AbiType.componentsJson_eq (type : AbiType) :
    type.componentsJson =
      match type.innermost with
      | tuple fields => some (fields.map fun field => (AbiParameter.ofField field).toJson)
      | _ => none := by
  induction type using AbiType.induct with
  | elementary _ => rfl
  | array _ _ ih => exact ih
  | slice _ ih => exact ih
  | tuple fields _ => exact congrArg some (fieldsJson_eq fields)

/-- The text of a type starts with the word for tuples if its innermost type is one. -/
theorem AbiType.prefix_textChars {type : AbiType} (h : type.innermost.isTuple = true) :
    "tuple".toList <+: type.textChars := by
  induction type using AbiType.induct with
  | elementary _ => cases h
  | array element size ih =>
    rw [textChars, List.append_assoc]
    exact (ih h).trans (List.prefix_append _ _)
  | slice element ih => exact (ih h).trans (List.prefix_append _ _)
  | tuple _ _ => exact List.prefix_rfl

theorem AbiParameter.given?_components (parameter : AbiParameter)
    (components : Option (List Json)) :
    (parameter.objectWith components).given? "components" = components.map .array := by
  obtain ⟨_, _, internalType, _⟩ := parameter
  cases components <;> cases internalType <;> rfl

theorem AbiParameter.describesHeader_objectWith (parameter : AbiParameter)
    (components : Option (List Json)) :
    (parameter.objectWith components).DescribesHeader
      ⟨parameter.name, parameter.type.text, parameter.internalType, parameter.indexed⟩ := by
  obtain ⟨name, _, internalType, indexed⟩ := parameter
  cases components <;> cases internalType <;>
    exact ⟨⟨some name, rfl, rfl⟩, rfl, rfl, ⟨some indexed, rfl, rfl⟩⟩

/-- A parameter is described by its JSON value if the components of its type are. -/
theorem AbiParameter.describesParameter_of_components {parameter : AbiParameter}
    (hlegal : parameter.type.IsLegal)
    (hcomponents : ∀ fields, parameter.type.innermost = .tuple fields →
      ∀ field ∈ fields, (ofField field).toJson.DescribesParameter (ofField field)) :
    parameter.toJson.DescribesParameter parameter := by
  have hheader := parameter.describesHeader_objectWith parameter.type.componentsJson
  have hgiven := parameter.given?_components parameter.type.componentsJson
  cases hinner : parameter.type.innermost with
  | tuple fields =>
    have hitems : parameter.type.componentsJson =
        some (fields.map fun field => (ofField field).toJson) := by
      rw [AbiType.componentsJson_eq, hinner]
    have hstart : "tuple".toList <+: parameter.type.text.toList := by
      have htuple : parameter.type.innermost.isTuple = true := by rw [hinner]; rfl
      have hchars : parameter.type.text.toList = parameter.type.textChars := String.toList_ofList
      rw [hchars]
      exact AbiType.prefix_textChars htuple
    have hfields : (fields.map ofField).map field = fields := by
      rw [List.map_map]
      exact List.map_id _
    have hdescribed : List.Forall₂ Json.DescribesParameter
        (fields.map fun field => (ofField field).toJson) (fields.map ofField) := by
      rw [List.forall₂_map_left_iff, List.forall₂_map_right_iff, List.forall₂_same]
      exact hcomponents fields hinner
    refine .tuple hheader hstart (hgiven.trans (congrArg _ hitems)) hdescribed
      (AbiType.parse_text hlegal fun others hothers => ?_)
    rw [hinner] at hothers
    rw [hfields, AbiType.tuple.inj hothers]
  | elementary _ | array _ _ | slice _ =>
    have hnone : parameter.type.componentsJson = none := by
      rw [AbiType.componentsJson_eq, hinner]
    refine .plain hheader (fun _ => hgiven.trans (congrArg _ hnone)) ?_
    exact AbiType.parse_text hlegal fun others hothers => by rw [hinner] at hothers; cases hothers

/-- **A parameter of legal type is described by its JSON value**. -/
theorem AbiParameter.describesParameter_toJson {parameter : AbiParameter}
    (hlegal : parameter.type.IsLegal) : parameter.toJson.DescribesParameter parameter := by
  refine describesParameter_of_components hlegal ?_
  generalize parameter.type = type at hlegal
  induction hlegal with
  | elementary _ => exact fun _ h => nomatch h
  | array _ _ ih => exact ih
  | slice _ ih => exact ih
  | tuple h ih =>
    rintro _ hinner field hfield
    cases hinner
    exact describesParameter_of_components (h field hfield) (ih field hfield)

theorem describesParameters_toJson {entry : Json} {name : String} {parameters : List AbiParameter}
    (hgiven : entry.given? name = some (.array (parameters.map AbiParameter.toJson)))
    (hlegal : ∀ parameter ∈ parameters, parameter.type.IsLegal) :
    entry.DescribesParameters name parameters := by
  refine .array hgiven ?_
  rw [List.forall₂_map_left_iff, List.forall₂_same]
  exact fun parameter hparameter =>
    AbiParameter.describesParameter_toJson (hlegal parameter hparameter)

/-! ### Entries -/

/-- A **function**, or a constructor, as a JSON value, given the word for its kind. -/
def AbiFunction.toJson (kind : String) (f : AbiFunction) : Json :=
  .object [("inputs", .array (f.inputs.map AbiParameter.toJson)), ("name", .string f.name),
    ("outputs", .array (f.outputs.map AbiParameter.toJson)),
    ("stateMutability", .string f.mutability.text), ("type", .string kind)]

/-- An **event** as a JSON value. -/
def AbiEvent.toJson (e : AbiEvent) : Json :=
  .object [("anonymous", .bool e.anonymous),
    ("inputs", .array (e.inputs.map AbiParameter.toJson)), ("name", .string e.name),
    ("type", .string "event")]

theorem AbiFunction.describesFunction_toJson {f : AbiFunction} (kind : String)
    (hlegal : ∀ parameter ∈ f.parameters, parameter.type.IsLegal) :
    (f.toJson kind).DescribesFunction f where
  inputs := describesParameters_toJson rfl (List.forall_mem_append.mp hlegal).1
  outputs := describesParameters_toJson rfl (List.forall_mem_append.mp hlegal).2
  mutability := ⟨none, none, rfl, rfl, .inl rfl⟩

/-! ### Contracts -/

/-- **Listing**: an array of entries for a contract. The functions stand in their order, and so do
the events. Entries without a binding may stand anywhere between them and hold anything. -/
inductive ContractAbi.Listing : ContractAbi → List Json → Prop
  /-- Nothing is listed. -/
  | nil : Listing ⟨none, [], []⟩ []
  /-- The constructor is listed next, and none after it. -/
  | constructor {functions : List AbiFunction} {events : List AbiEvent} {items : List Json}
      (f : AbiFunction) (h : Listing ⟨none, functions, events⟩ items) :
      Listing ⟨some f, functions, events⟩ (f.toJson "constructor" :: items)
  /-- The first function is listed next. -/
  | function {constructor : Option AbiFunction} {functions : List AbiFunction}
      {events : List AbiEvent} {items : List Json} (f : AbiFunction)
      (h : Listing ⟨constructor, functions, events⟩ items) :
      Listing ⟨constructor, f :: functions, events⟩ (f.toJson "function" :: items)
  /-- The first event is listed next. -/
  | event {constructor : Option AbiFunction} {functions : List AbiFunction}
      {events : List AbiEvent} {items : List Json} (e : AbiEvent)
      (h : Listing ⟨constructor, functions, events⟩ items) :
      Listing ⟨constructor, functions, e :: events⟩ (e.toJson :: items)
  /-- An entry without a binding comes next. -/
  | unbound {abi : ContractAbi} {items : List Json} {item : Json} {kind : String}
      (hkind : item.given? "type" = some (.string kind))
      (hunbound : kind ∈ ["error", "fallback", "receive"]) (h : Listing abi items) :
      Listing abi (item :: items)

namespace ContractAbi

/-! The entry in front of others adds to the contract that these make up. -/

theorem ofEntries_constructor (f : AbiFunction) (entries : List AbiEntry) :
    ofEntries (.constructor f :: entries) =
      { ofEntries entries with constructor := some ((ofEntries entries).constructor.getD f) } := by
  simp [ofEntries, List.getLast?_cons]

theorem ofEntries_function (f : AbiFunction) (entries : List AbiEntry) :
    ofEntries (.function f :: entries) =
      { ofEntries entries with functions := f :: (ofEntries entries).functions } := rfl

theorem ofEntries_event (e : AbiEvent) (entries : List AbiEntry) :
    ofEntries (.event e :: entries) =
      { ofEntries entries with events := e :: (ofEntries entries).events } := rfl

theorem ofEntries_unbound (entries : List AbiEntry) :
    ofEntries (.unbound :: entries) = ofEntries entries := rfl

/-- The items of a listing describe entries that make up the contract. -/
theorem Listing.exists_entries {abi : ContractAbi} {items : List Json} (h : abi.Listing items)
    (hlegal : abi.IsLegal) :
    ∃ entries, List.Forall₂ Json.DescribesEntry items entries ∧ ofEntries entries = abi := by
  induction h with
  | nil => exact ⟨[], .nil, rfl⟩
  | constructor f _ ih =>
    obtain ⟨entries, hitems, habi⟩ := ih ⟨by simp, hlegal.functions, hlegal.events⟩
    have hf := AbiFunction.describesFunction_toJson "constructor" (hlegal.constructor f rfl)
    have hentry := @Json.DescribesEntry.constructor _ f (some f.name) rfl rfl rfl hf
    refine ⟨.constructor f :: entries, .cons hentry hitems, ?_⟩
    rw [ofEntries_constructor, habi]
    rfl
  | function f _ ih =>
    obtain ⟨hfirst, hrest⟩ := List.forall_mem_cons.mp hlegal.functions
    obtain ⟨entries, hitems, habi⟩ := ih ⟨hlegal.constructor, hrest, hlegal.events⟩
    have hf := AbiFunction.describesFunction_toJson "function" hfirst
    have hentry := Json.DescribesEntry.function (.inr rfl) rfl hf
    refine ⟨.function f :: entries, .cons hentry hitems, ?_⟩
    rw [ofEntries_function, habi]
  | event e _ ih =>
    obtain ⟨hfirst, hrest⟩ := List.forall_mem_cons.mp hlegal.events
    obtain ⟨entries, hitems, habi⟩ := ih ⟨hlegal.constructor, hlegal.functions, hrest⟩
    have hinputs : e.toJson.DescribesParameters "inputs" e.inputs :=
      describesParameters_toJson rfl hfirst
    have hentry := @Json.DescribesEntry.event _ e (some e.anonymous) rfl rfl hinputs rfl rfl
    refine ⟨.event e :: entries, .cons hentry hitems, ?_⟩
    rw [ofEntries_event, habi]
  | unbound hkind hunbound _ ih =>
    obtain ⟨entries, hitems, habi⟩ := ih hlegal
    refine ⟨.unbound :: entries, .cons (.unbound hkind hunbound) hitems, ?_⟩
    rw [ofEntries_unbound, habi]

/-- **Reading undoes writing**: a legal contract is read back from each of its listings. -/
theorem ofJson_of_listing {abi : ContractAbi} {items : List Json} (hlegal : abi.IsLegal)
    (hlisting : abi.Listing items) : ofJson (.array items) = .ok abi := by
  obtain ⟨entries, hitems, habi⟩ := hlisting.exists_entries hlegal
  exact ofJson_eq_ok_iff.mpr ⟨items, entries, rfl, hitems, habi⟩

end ContractAbi

/-- A parameter whose type is an array of slices of a tuple with an empty tuple in it. -/
private def ordersParameter : AbiParameter :=
  ⟨"orders", .array (.slice (.tuple [("", .tuple []),
    ("limits", .array (.slice (.elementary (.uint 256))) 3)])) 2, some "struct Order[][2]", true⟩

/-- A contract with a constructor, two functions and an anonymous event, all about that type. -/
def nestedContract : ContractAbi where
  constructor := some ⟨"", [ordersParameter], [], .payable⟩
  functions := [⟨"orders", [], [ordersParameter], .view⟩,
    ⟨"place", [ordersParameter, ordersParameter], [], .nonpayable⟩]
  events := [⟨"Placed", [ordersParameter], true⟩]

/-- A listing of that contract, with entries without a binding in it. -/
def nestedListing : List Json :=
  [.object [("inputs", .number (.integer 7)), ("type", .string "error")],
    AbiFunction.toJson "function" ⟨"orders", [], [ordersParameter], .view⟩,
    AbiEvent.toJson ⟨"Placed", [ordersParameter], true⟩,
    AbiFunction.toJson "constructor" ⟨"", [ordersParameter], [], .payable⟩,
    .object [("type", .string "receive")],
    AbiFunction.toJson "function"
      ⟨"place", [ordersParameter, ordersParameter], [], .nonpayable⟩]

theorem ContractAbi.ofJson_of_listing_nested :
    nestedContract.IsLegal ∧ nestedContract.Listing nestedListing ∧
      ContractAbi.ofJson (.array nestedListing) = .ok nestedContract := by
  have hlimits : AbiType.IsLegal (.array (.slice (.elementary (.uint 256))) 3) :=
    .array (.slice (.elementary (by decide))) (by decide)
  have hparameter : ordersParameter.type.IsLegal := by
    refine .array (.slice (.tuple (List.forall_mem_cons.mpr ⟨?_, ?_⟩))) (by decide)
    · exact .tuple fun _ h => absurd h List.not_mem_nil
    · exact List.forall_mem_singleton.mpr hlimits
  have hlegal : nestedContract.IsLegal := by
    constructor <;> simp [nestedContract, AbiFunction.parameters, hparameter]
  have hlisting : nestedContract.Listing nestedListing :=
    .unbound rfl (by decide) <| .function _ <| .event _ <| .constructor _ <|
      .unbound rfl (by decide) <| .function _ .nil
  exact ⟨hlegal, hlisting, ContractAbi.ofJson_of_listing hlegal hlisting⟩

end ContractBindings
