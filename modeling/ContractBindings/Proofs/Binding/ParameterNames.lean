import ContractBindings.Binding.Binder
import ContractBindings.Proofs.Binding.Entries
import ContractBindings.Proofs.Related
import ContractBindings.Proofs.Struct.FieldNames

/-!
# Parameter names and classification

The names of parameters and of tuple fields carry no type information. `ContractAbi.erased` takes
them away, and internal types too; the classification of an ABI is in step with that of the erased
one (`inStep_classify`), since keys are claimed by the names of functions and events alone, and
types are mapped in step with their shapes.

So two ABIs that differ in such names only have the same fault, or results and structs that agree in
everything but names (`classifyChecked_congr`). `AgreesWith` says what that is, for each kind of
result.
-/

namespace ContractBindings

/-! ### Erasing the names of parameters -/

/-- A parameter without its name, those inside its type and its internal type. -/
def AbiParameter.erased (parameter : AbiParameter) : AbiParameter :=
  ⟨"", parameter.type.shape, none, parameter.indexed⟩

/-- A function without the names of its parameters. -/
def AbiFunction.erased (f : AbiFunction) : AbiFunction :=
  { f with
    inputs := f.inputs.map AbiParameter.erased
    outputs := f.outputs.map AbiParameter.erased }

/-- An event without the names of its parameters. -/
def AbiEvent.erased (e : AbiEvent) : AbiEvent :=
  { e with inputs := e.inputs.map AbiParameter.erased }

/-- An ABI without the names of parameters. -/
def ContractAbi.erased (abi : ContractAbi) : ContractAbi where
  constructor := abi.constructor.map AbiFunction.erased
  functions := abi.functions.map AbiFunction.erased
  events := abi.events.map AbiEvent.erased

/-- The names of parameters take no part in a canonical signature. -/
theorem canonicalSignature_erased (name : String) (parameters : List AbiParameter) :
    canonicalSignature name (parameters.map AbiParameter.erased) =
      canonicalSignature name parameters := by
  have hshape : (parameterTuple (parameters.map AbiParameter.erased)).shape =
      (parameterTuple parameters).shape := by
    simp only [shape_parameterTuple, List.map_map, Function.comp_def, AbiParameter.erased,
      AbiType.shape_shape]
  rw [canonicalSignature, canonicalSignature, AbiType.signature_eq_iff.mpr hshape]

@[simp]
theorem AbiParameter.erased_erased (parameter : AbiParameter) :
    parameter.erased.erased = parameter.erased := by
  rw [erased, erased, AbiType.shape_shape]

@[simp]
theorem AbiFunction.erased_erased (f : AbiFunction) : f.erased.erased = f.erased := by
  simp only [erased, List.map_map, Function.comp_def, AbiParameter.erased_erased]

@[simp]
theorem AbiEvent.erased_erased (e : AbiEvent) : e.erased.erased = e.erased := by
  simp only [erased, List.map_map, Function.comp_def, AbiParameter.erased_erased]

@[simp]
theorem AbiFunction.signature_erased (f : AbiFunction) : f.erased.signature = f.signature :=
  canonicalSignature_erased f.name f.inputs

@[simp]
theorem AbiEvent.signature_erased (e : AbiEvent) : e.erased.signature = e.signature :=
  canonicalSignature_erased e.name e.inputs

theorem ContractAbi.boundFunctions_erased (abi : ContractAbi) (customs : Customs) :
    abi.erased.boundFunctions customs = (abi.boundFunctions customs).map AbiFunction.erased := by
  rw [boundFunctions, boundFunctions, erased, List.filter_map]
  rfl

theorem ContractAbi.boundEvents_erased (abi : ContractAbi) :
    abi.erased.boundEvents = abi.boundEvents.map AbiEvent.erased := by
  rw [boundEvents, boundEvents, erased, List.filter_map]
  rfl

/-- Entries whose images have the same names have images with the same keys. -/
theorem withKeys_map {α β : Type} (language : Language) {name : α → String} {other : β → String}
    {image : α → β} (h : ∀ a, other (image a) = name a) (entries : List α) :
    withKeys language other (entries.map image) =
      (withKeys language name entries).map fun entry => (entry.1, image entry.2) := by
  have hnames : (entries.map image).map other = entries.map name := by
    rw [List.map_map]
    exact List.map_congr_left fun a _ => h a
  rw [withKeys, withKeys, hnames, List.zip_map_right]
  rfl

/-! ### Erasing names in a classification -/

/-- A bound argument without its name and those inside its type. -/
def BoundArgument.erased (argument : BoundArgument) : BoundArgument :=
  ⟨"", argument.type.shape, argument.boundType, argument.indexed⟩

/-- A bound method without the names of its arguments, which its declaration has too. -/
def BoundMethod.erased (method : BoundMethod) : BoundMethod where
  function := method.function.erased
  normalizedName := method.normalizedName
  inputs := method.inputs.map BoundArgument.erased
  outputs := method.outputs.map BoundArgument.erased
  declaration := ""

/-- A bound event without the names of its arguments, which its declaration has too. -/
def BoundEvent.erased (event : BoundEvent) : BoundEvent where
  event := event.event.erased
  normalizedName := event.normalizedName
  inputs := event.inputs.map BoundArgument.erased
  declaration := ""

/-- A classification without the names of arguments. -/
def Classification.erased (result : Classification) : Classification where
  calls := result.calls.map fun _ => BoundMethod.erased
  transacts := result.transacts.map fun _ => BoundMethod.erased
  events := result.events.map fun _ => BoundEvent.erased
  constructor := result.constructor.map BoundMethod.erased
  signatures := result.signatures

/-- Names can be erased before the maps of a classification are made. -/
theorem Classification.erased_ofBound (methods : List (String × BoundMethod))
    (events : List (String × BoundEvent)) (constructor : Option BoundMethod) :
    (Classification.ofBound methods events constructor).erased =
      .ofBound (methods.map fun entry => (entry.1, entry.2.erased))
        (events.map fun entry => (entry.1, entry.2.erased))
        (constructor.map BoundMethod.erased) := by
  simp only [erased, ofBound, TextMap.map_ofList, List.filter_map, List.map_map, Function.comp_def]
  simp only [BoundMethod.erased, BoundEvent.erased, AbiFunction.signature_erased,
    AbiEvent.signature_erased]
  rfl

/-! ### Runs in step -/

section InStep

variable (language : Language)

theorem inStep_bindInput (parameter : AbiParameter) (place : Nat) :
    InStep (bindInput language parameter place) (bindInput language parameter.erased place)
      fun a b => a.erased = b.erased := by
  have htype : InStep
      (if parameter.indexed then mapTopicType language parameter.type
        else mapType language parameter.type)
      (if parameter.indexed then mapTopicType language parameter.type.shape
        else mapType language parameter.type.shape) Eq := by
    split
    · exact inStep_mapTopicType parameter.type
    · exact inStep_mapType parameter.type
  have hbind : ∀ parameter : AbiParameter, bindInput language parameter place =
      (if parameter.indexed then mapTopicType language parameter.type
        else mapType language parameter.type) >>= fun boundType =>
          pure ⟨inputName parameter place, parameter.type, boundType, parameter.indexed⟩ := by
    intro parameter
    rw [bindInput]
    split <;> rfl
  rw [hbind, hbind]
  refine htype.map fun _ _ hbound => ?_
  simp only [BoundArgument.erased, AbiParameter.erased, AbiType.shape_shape, hbound]

theorem inStep_bindInputs (parameters : List AbiParameter) :
    InStep (bindInputs language parameters)
      (bindInputs language (parameters.map AbiParameter.erased))
      (List.Forall₂ fun a b => a.erased = b.erased) := by
  rw [bindInputs, bindInputs, List.zipIdx_map]
  exact .mapM fun entry _ => inStep_bindInput language entry.1 entry.2

theorem inStep_bindOutput (parameter : AbiParameter) :
    InStep (bindOutput language parameter) (bindOutput language parameter.erased)
      fun a b => a.erased = b.erased := by
  refine (inStep_mapType parameter.type).map fun _ _ hbound => ?_
  simp only [BoundArgument.erased, AbiParameter.erased, AbiType.shape_shape, hbound]

theorem inStep_bindMethod (key : String) (f : AbiFunction) :
    InStep (bindMethod language key f) (bindMethod language key f.erased)
      fun a b => a.erased = b.erased := by
  rw [bindMethod, bindMethod]
  have houtputs : InStep (f.outputs.mapM (bindOutput language))
      (f.erased.outputs.mapM (bindOutput language))
      (List.Forall₂ fun a b => a.erased = b.erased) :=
    .mapM fun parameter _ => inStep_bindOutput language parameter
  refine (inStep_bindInputs language f.inputs).bind fun inputs others hinputs =>
    houtputs.map fun outputs otherOutputs houtputs => ?_
  simp only [BoundMethod.erased, AbiFunction.erased_erased, map_eq_map_iff.mpr hinputs,
    map_eq_map_iff.mpr houtputs]

theorem inStep_bindEvent (key : String) (e : AbiEvent) :
    InStep (bindEvent language key e) (bindEvent language key e.erased)
      fun a b => a.erased = b.erased := by
  rw [bindEvent, bindEvent]
  refine (inStep_bindInputs language e.inputs).map fun inputs others hinputs => ?_
  simp only [BoundEvent.erased, AbiEvent.erased_erased, map_eq_map_iff.mpr hinputs]

/-- Entries are bound in step under their keys if each of them is. -/
theorem inStep_mapM_withKeys {α β γ : Type} {bind : String → α → Resolve β} {erase : β → γ}
    (name : α → String) (image : α → α) (hname : ∀ a, name (image a) = name a)
    (h : ∀ key a, InStep (bind key a) (bind key (image a)) fun b c => erase b = erase c)
    (entries : List α) :
    InStep
      ((withKeys language name entries).mapM fun (key, a) => return (key, ← bind key a))
      ((withKeys language name (entries.map image)).mapM fun (key, a) =>
        return (key, ← bind key a))
      fun bound others => bound.map (fun entry => (entry.1, erase entry.2)) =
        others.map fun entry => (entry.1, erase entry.2) := by
  rw [withKeys_map language hname]
  simp only [map_eq_map_iff]
  exact .mapM fun (key, a) _ => (h key a).map fun _ _ hbound => by rw [hbound]

/-- **Classifying** an ABI is in step with classifying it without the names of parameters. -/
theorem inStep_classify (customs : Customs) (abi : ContractAbi) :
    InStep (classify language customs abi) (classify language customs abi.erased)
      fun result other => result.erased = other.erased := by
  rw [classify, classify, abi.boundFunctions_erased, abi.boundEvents_erased]
  have hmethods := inStep_mapM_withKeys language AbiFunction.name AbiFunction.erased (fun _ => rfl)
    (inStep_bindMethod language) (abi.boundFunctions customs)
  have hevents := inStep_mapM_withKeys language AbiEvent.name AbiEvent.erased (fun _ => rfl)
    (inStep_bindEvent language) abi.boundEvents
  have hconstructor : InStep (abi.constructor.mapM (bindMethod language ""))
      (abi.erased.constructor.mapM (bindMethod language ""))
      (Option.Rel fun a b => a.erased = b.erased) :=
    .optionMapM fun f _ => inStep_bindMethod language "" f
  refine hmethods.bind fun methods otherMethods hmethods => hevents.bind
    fun events otherEvents hevents => hconstructor.map fun constructor other hconstructor => ?_
  rw [Classification.erased_ofBound, Classification.erased_ofBound, hmethods, hevents]
  cases hconstructor with
  | none => rfl
  | some h => rw [Option.map_some, Option.map_some, h]

end InStep

/-! ### Agreement but for names -/

/-- Arguments that agree but for names. -/
structure BoundArgument.AgreesWith (argument other : BoundArgument) : Prop where
  /-- The types differ in the names of tuple fields only. -/
  shape : argument.type.shape = other.type.shape
  boundType : argument.boundType = other.boundType
  indexed : argument.indexed = other.indexed

/-- Methods that agree but for the names of arguments. -/
structure BoundMethod.AgreesWith (method other : BoundMethod) : Prop where
  name : method.function.name = other.function.name
  signature : method.function.signature = other.function.signature
  selector : method.function.selector = other.function.selector
  normalizedName : method.normalizedName = other.normalizedName
  isConstant : method.function.isConstant = other.function.isConstant
  isPayable : method.function.isPayable = other.function.isPayable
  inputs : List.Forall₂ BoundArgument.AgreesWith method.inputs other.inputs
  outputs : List.Forall₂ BoundArgument.AgreesWith method.outputs other.outputs

/-- Events that agree but for the names of arguments. -/
structure BoundEvent.AgreesWith (event other : BoundEvent) : Prop where
  name : event.event.name = other.event.name
  signature : event.event.signature = other.event.signature
  topic : event.event.topic = other.event.topic
  normalizedName : event.normalizedName = other.normalizedName
  inputs : List.Forall₂ BoundArgument.AgreesWith event.inputs other.inputs

/-- Maps with the same keys whose values are related key by key. -/
def TextMap.AgreesBy {α : Type} (related : α → α → Prop) (map other : TextMap α) : Prop :=
  List.Forall₂ (fun a b => a.1 = b.1 ∧ related a.2 b.2) map.entries other.entries

/-- **Classifications** that agree but for the names of arguments. -/
structure Classification.AgreesWith (result other : Classification) : Prop where
  calls : result.calls.AgreesBy BoundMethod.AgreesWith other.calls
  transacts : result.transacts.AgreesBy BoundMethod.AgreesWith other.transacts
  events : result.events.AgreesBy BoundEvent.AgreesWith other.events
  constructor : Option.Rel BoundMethod.AgreesWith result.constructor other.constructor
  signatures : result.signatures = other.signatures

/-- Structs that agree but for the names of fields. -/
structure StructDescriptor.AgreesWith (struct other : StructDescriptor) : Prop where
  name : struct.name = other.name
  signature : struct.signature = other.signature
  /-- The fields have the same bound types, and ABI types of the same shape. -/
  fields : List.Forall₂
    (fun a b => a.boundType = b.boundType ∧ a.abiType.shape = b.abiType.shape)
    struct.fields other.fields

/-- **Registries** that agree but for the names of fields: their structs do, one by one. -/
def StructRegistry.AgreesWith (registry other : StructRegistry) : Prop :=
  List.Forall₂ StructDescriptor.AgreesWith registry.structs other.structs

section Agreement

/-- Lists with the same images have related items if the image says so. -/
private theorem forall₂_of_map_eq {α β : Type} {image : α → β} {R : α → α → Prop}
    {items others : List α} (hR : ∀ a b, image a = image b → R a b)
    (h : items.map image = others.map image) : List.Forall₂ R items others :=
  (map_eq_map_iff.mp h).imp hR

theorem BoundArgument.agreesWith_of_erased {argument other : BoundArgument}
    (h : argument.erased = other.erased) : argument.AgreesWith other := by
  obtain ⟨-, hshape, hbound, hindexed⟩ := BoundArgument.mk.inj h
  exact ⟨hshape, hbound, hindexed⟩

theorem BoundMethod.agreesWith_of_erased {method other : BoundMethod}
    (h : method.erased = other.erased) : method.AgreesWith other := by
  obtain ⟨hfunction, hname, hinputs, houtputs, -⟩ := BoundMethod.mk.inj h
  have hsignature : method.function.signature = other.function.signature := by
    rw [← AbiFunction.signature_erased, hfunction, AbiFunction.signature_erased]
  obtain ⟨hown, -, -, hmutability⟩ := AbiFunction.mk.inj hfunction
  exact {
    name := hown
    signature := hsignature
    selector := by rw [AbiFunction.selector, hsignature, ← AbiFunction.selector]
    normalizedName := hname
    isConstant := by rw [AbiFunction.isConstant, hmutability, ← AbiFunction.isConstant]
    isPayable := by rw [AbiFunction.isPayable, hmutability, ← AbiFunction.isPayable]
    inputs := forall₂_of_map_eq (fun _ _ => BoundArgument.agreesWith_of_erased) hinputs
    outputs := forall₂_of_map_eq (fun _ _ => BoundArgument.agreesWith_of_erased) houtputs }

theorem BoundEvent.agreesWith_of_erased {event other : BoundEvent}
    (h : event.erased = other.erased) : event.AgreesWith other := by
  obtain ⟨hevent, hname, hinputs, -⟩ := BoundEvent.mk.inj h
  have hsignature : event.event.signature = other.event.signature := by
    rw [← AbiEvent.signature_erased, hevent, AbiEvent.signature_erased]
  exact {
    name := (AbiEvent.mk.inj hevent).1
    signature := hsignature
    topic := by rw [AbiEvent.topic, hsignature, ← AbiEvent.topic]
    normalizedName := hname
    inputs := forall₂_of_map_eq (fun _ _ => BoundArgument.agreesWith_of_erased) hinputs }

theorem TextMap.agreesBy_of_map {α β : Type} {image : α → β} {R : α → α → Prop}
    {map other : TextMap α} (hR : ∀ a b, image a = image b → R a b)
    (h : (map.map fun _ => image) = other.map fun _ => image) : map.AgreesBy R other :=
  forall₂_of_map_eq (fun _ _ hentry => (Prod.mk.inj hentry).imp_right (hR _ _))
    (congrArg entries h)

theorem Classification.agreesWith_of_erased {result other : Classification}
    (h : result.erased = other.erased) : result.AgreesWith other := by
  obtain ⟨hcalls, htransacts, hevents, hconstructor, hsignatures⟩ := Classification.mk.inj h
  refine ⟨TextMap.agreesBy_of_map (fun _ _ => BoundMethod.agreesWith_of_erased) hcalls,
    TextMap.agreesBy_of_map (fun _ _ => BoundMethod.agreesWith_of_erased) htransacts,
    TextMap.agreesBy_of_map (fun _ _ => BoundEvent.agreesWith_of_erased) hevents, ?_, hsignatures⟩
  cases hfirst : result.constructor <;> cases hsecond : other.constructor <;>
    simp only [hfirst, hsecond, Option.map_some, Option.map_none, reduceCtorEq,
      Option.some.injEq] at hconstructor
  · exact .none
  · exact .some (BoundMethod.agreesWith_of_erased hconstructor)

theorem StructRegistry.agreesWith_of_erased {registry other : StructRegistry}
    (h : registry.erased = other.erased) : registry.AgreesWith other := by
  refine forall₂_of_map_eq (fun struct second hstruct => ?_) (congrArg structs h)
  obtain ⟨hname, hsignature, hfields⟩ := StructDescriptor.mk.inj hstruct
  refine ⟨hname, hsignature, forall₂_of_map_eq (fun field next hfield => ?_) hfields⟩
  exact (StructField.mk.inj hfield).2

end Agreement

/-! ### Two runs -/

/-- **Checked classification**: the classification of an ABI and its structs, if no two of these
have the same display name. -/
def classifyChecked (language : Language) (customs : Customs) (overrides : TextMap String)
    (abi : ContractAbi) : Except BindError (Classification × StructRegistry) := do
  let (result, structs) := (classify language customs abi).run (.withOverrides overrides)
  let classification ← result
  structs.checkNames
  return (classification, structs)

/-- A contract is bound by the checked classification of its ABI, which is declared then. -/
theorem bind_eq_classifyChecked (binder : Binder) (name : String) (deployment : Deployment) :
    binder.bind name deployment = do
      let abi ← deployment.parseAbi
      let customs := binder.config.customsFor name
      let (result, structs) ← classifyChecked binder.config.language customs customs.structs abi
      return {
        name := name
        language := binder.config.language
        platform := binder.config.platform
        inputAbi := stripAbi deployment.rawAbi
        classification := result.declared structs
        structs := structs
        imports := mergeImports [binder.config.platform.imports, customs.imports]
        deployment := deployment.info? } := by
  rw [Binder.bind]
  refine bind_congr fun abi => ?_
  dsimp only [classifyChecked]
  generalize (classify _ _ abi).run _ = outcome
  obtain ⟨fault | result, structs⟩ := outcome
  · rfl
  · dsimp only [Binder.assemble]
    cases structs.checkNames <;> rfl

/-- **Names carry no type information**: ABIs that differ only in the names of parameters and tuple
fields and in internal types have the same fault, or results and structs that agree but for
names. -/
theorem classifyChecked_congr (language : Language) (customs : Customs)
    (overrides : TextMap String) {abi other : ContractAbi} (h : abi.erased = other.erased) :
    (∃ fault, classifyChecked language customs overrides abi = .error fault ∧
      classifyChecked language customs overrides other = .error fault) ∨
    ∃ result structs second others,
      classifyChecked language customs overrides abi = .ok (result, structs) ∧
      classifyChecked language customs overrides other = .ok (second, others) ∧
      result.AgreesWith second ∧ structs.AgreesWith others := by
  have hother : InStep (classify language customs other) (classify language customs abi.erased)
      fun second common => second.erased = common.erased := by
    rw [h]
    exact inStep_classify language customs other
  have hsteps : InStep (classify language customs abi) (classify language customs other)
      fun result second => result.erased = second.erased :=
    (inStep_classify language customs abi).of_common hother fun _ _ _ hfirst hsecond =>
      hfirst.trans hsecond.symm
  have hruns := hsteps (.withOverrides overrides) (.withOverrides overrides) rfl
  rw [Resolve.outcome, Resolve.outcome] at hruns
  rw [classifyChecked, classifyChecked]
  generalize (classify language customs abi).run (.withOverrides overrides) = first at hruns ⊢
  generalize (classify language customs other).run (.withOverrides overrides) = last at hruns ⊢
  cases hruns with
  | error hregistry => exact .inl ⟨_, rfl, rfl⟩
  | @ok result second structs others hresult hregistry =>
    have hnames : others.checkNames = structs.checkNames := by
      rw [← structs.checkNames_erased, hregistry, others.checkNames_erased]
    dsimp only
    rw [hnames]
    cases structs.checkNames with
    | error fault => exact .inl ⟨fault, rfl, rfl⟩
    | ok _ =>
      exact .inr ⟨result, structs, second, others, rfl, rfl,
        Classification.agreesWith_of_erased hresult, StructRegistry.agreesWith_of_erased hregistry⟩

/-- Two overloads and an event share a nested tuple, in which all names are made of one label. -/
def labelled (label : String) (internalType : Option String) : ContractAbi :=
  let item : AbiType := .tuple [(label ++ "1", .elementary (.uint 8)), ("", .elementary .bool)]
  let order : AbiType := .tuple [("", .elementary .address), (label, .slice item)]
  let parameter (type : AbiType) (indexed : Bool) : AbiParameter :=
    ⟨label, type, internalType, indexed⟩
  { constructor := some ⟨"", [parameter item false], [], .payable⟩
    functions :=
      [⟨"place", [parameter order false], [parameter (.array item 2) false], .nonpayable⟩,
        ⟨"place", [parameter (.elementary .address) false], [parameter order false], .view⟩]
    events := [⟨"Placed", [parameter (.elementary .string) true, parameter order false], false⟩] }

theorem classifyChecked_congr_labelled :
    (labelled "" none).erased = (labelled "to" (some "struct Order")).erased ∧
    ∃ result structs second others,
      classifyChecked .golang .empty .empty (labelled "" none) = .ok (result, structs) ∧
      classifyChecked .golang .empty .empty (labelled "to" (some "struct Order")) =
        .ok (second, others) ∧
      result.AgreesWith second ∧ structs.AgreesWith others := by
  have herased : (labelled "" none).erased = (labelled "to" (some "struct Order")).erased := rfl
  have hok : ∃ found, classifyChecked .golang .empty .empty (labelled "" none) = .ok found :=
    ⟨_, rfl⟩
  refine ⟨herased, ?_⟩
  rcases classifyChecked_congr .golang .empty .empty herased with ⟨fault, hfault, -⟩ | hagree
  · obtain ⟨found, hfound⟩ := hok
    exact nomatch hfault.symm.trans hfound
  · exact hagree

end ContractBindings
