import ContractBindings.Binding.Classification
import ContractBindings.Proofs.Binding.Entries
import ContractBindings.Proofs.Struct.Records
import ContractBindings.Proofs.Struct.Registration

/-!
# The structs of a classified ABI

`ContractAbi.traversal` lists the tuples of an ABI without any memory: those of the bound
functions, inputs before outputs, then those of the bound events and of the constructor. The
classification of the ABI registers them (`registers_classify`), and its result is
`namedClassification`: the bound methods and events with the display names that there are in
the end. So an ABI that is classified from the registry without a struct leaves the registry of
that traversal (`registry_of_classify`).
-/

namespace ContractBindings

open StructRegistry (ofTraversal)

/-! ### The tuples of an ABI -/

/-- The tuples in the types of some parameters. -/
def parameterTuples (parameters : List AbiParameter) : List TupleFields :=
  parameters.flatMap fun parameter => parameter.type.tuples

/-- The tuples of a function or constructor. -/
def AbiFunction.tuples (f : AbiFunction) : List TupleFields :=
  parameterTuples f.inputs ++ parameterTuples f.outputs

/-- The tuples of an event. -/
def AbiEvent.tuples (e : AbiEvent) : List TupleFields := parameterTuples e.inputs

/-- **Traversal** of an ABI: the tuples of the bound functions and events and of the
constructor. -/
def ContractAbi.traversal (abi : ContractAbi) (customs : Customs) : List TupleFields :=
  (abi.boundFunctions customs).flatMap AbiFunction.tuples ++
    (abi.boundEvents.flatMap AbiEvent.tuples ++ abi.constructor.toList.flatMap AbiFunction.tuples)

/-! ### Bound methods and events for given display names -/

section Named

variable (language : Language) (names : String → String)

/-- The bound type of an input. -/
def namedInputType (parameter : AbiParameter) : String :=
  if parameter.indexed ∧ parameter.type.isHashedTopic then language.hashType
  else language.boundText names parameter.type

/-- The bound input at the given place. -/
def namedInput (parameter : AbiParameter) (place : Nat) : BoundArgument where
  name := inputName parameter place
  type := parameter.type
  boundType := namedInputType language names parameter
  indexed := parameter.indexed

/-- The bound inputs of a function or event. -/
def namedInputs (parameters : List AbiParameter) : List BoundArgument :=
  parameters.mapIdx fun place parameter => namedInput language names parameter place

/-- A bound output. -/
def namedOutput (parameter : AbiParameter) : BoundArgument where
  name := capitalize parameter.name
  type := parameter.type
  boundType := language.boundText names parameter.type
  indexed := false

/-- The bound method under a key. -/
def namedMethod (key : String) (f : AbiFunction) : BoundMethod where
  function := f
  normalizedName := language.methodName key
  inputs := namedInputs language names f.inputs
  outputs := f.outputs.map (namedOutput language names)
  declaration := ""

/-- The bound event under a key. -/
def namedEvent (key : String) (e : AbiEvent) : BoundEvent where
  event := e
  normalizedName := language.methodName key
  inputs := namedInputs language names e.inputs
  declaration := ""

/-- The classification of an ABI for given display names. -/
def namedClassification (customs : Customs) (abi : ContractAbi) : Classification :=
  .ofBound
    ((withKeys language AbiFunction.name (abi.boundFunctions customs)).map fun (key, f) =>
      (key, namedMethod language names key f))
    ((withKeys language AbiEvent.name abi.boundEvents).map fun (key, e) =>
      (key, namedEvent language names key e))
    (abi.constructor.map (namedMethod language names ""))

end Named

/-! ### What is registered -/

theorem flatMap_withKeys {α β : Type} (language : Language) (name : α → String)
    (entries : List α) (f : α → List β) :
    (withKeys language name entries).flatMap (fun entry => f entry.2) = entries.flatMap f := by
  rw [← List.flatMap_map Prod.snd, map_snd_withKeys]

section Registered

variable (language : Language) (overrides : TextMap String)

theorem registers_bindInput (parameter : AbiParameter) (place : Nat) :
    Registers language overrides (bindInput language parameter place) parameter.type.tuples
      fun names => namedInput language names parameter place := by
  have htype : Registers language overrides
      (if parameter.indexed then mapTopicType language parameter.type
        else mapType language parameter.type)
      parameter.type.tuples fun names => namedInputType language names parameter := by
    cases hindexed : parameter.indexed with
    | true =>
      simp only [namedInputType, hindexed, true_and, if_true]
      exact registers_mapTopicType language overrides parameter.type
    | false =>
      simp only [namedInputType, hindexed, Bool.false_eq_true, false_and, if_false]
      exact registers_mapType language overrides parameter.type
  have hbind : bindInput language parameter place =
      (if parameter.indexed then mapTopicType language parameter.type
        else mapType language parameter.type) >>= fun boundType =>
          pure ⟨inputName parameter place, parameter.type, boundType, parameter.indexed⟩ := by
    rw [bindInput]
    split <;> rfl
  rw [hbind]
  exact htype.map (BoundArgument.mk (inputName parameter place) parameter.type ·
    parameter.indexed)

theorem registers_bindInputs (parameters : List AbiParameter) :
    Registers language overrides (bindInputs language parameters) (parameterTuples parameters)
      fun names => namedInputs language names parameters := by
  have hinputs := Registers.mapM fun (item : AbiParameter × Nat) (_ : item ∈ parameters.zipIdx) =>
    registers_bindInput language overrides item.1 item.2
  have htuples : parameterTuples parameters =
      parameters.zipIdx.flatMap fun item => item.1.type.tuples := by
    rw [← List.flatMap_map Prod.fst fun parameter : AbiParameter => parameter.type.tuples,
      List.zipIdx_map_fst, parameterTuples]
  simp only [namedInputs, List.mapIdx_eq_zipIdx_map, htuples]
  exact hinputs

theorem registers_bindOutputs (parameters : List AbiParameter) :
    Registers language overrides (parameters.mapM (bindOutput language))
      (parameterTuples parameters) fun names => parameters.map (namedOutput language names) :=
  .mapM fun parameter _ => (registers_mapType language overrides parameter.type).map
    (BoundArgument.mk (capitalize parameter.name) parameter.type · false)

theorem registers_bindMethod (key : String) (f : AbiFunction) :
    Registers language overrides (bindMethod language key f) f.tuples fun names =>
      namedMethod language names key f :=
  (registers_bindInputs language overrides f.inputs).bind fun inputs =>
    (registers_bindOutputs language overrides f.outputs).map
      (BoundMethod.mk f (language.methodName key) inputs · "")

theorem registers_bindEvent (key : String) (e : AbiEvent) :
    Registers language overrides (bindEvent language key e) e.tuples fun names =>
      namedEvent language names key e :=
  (registers_bindInputs language overrides e.inputs).map
    (BoundEvent.mk e (language.methodName key) · "")

/-- **Classifying** an ABI registers its tuples and binds its entries with the final names. -/
theorem registers_classify (customs : Customs) (abi : ContractAbi) :
    Registers language overrides (classify language customs abi) (abi.traversal customs)
      fun names => namedClassification language names customs abi := by
  have hmethods : Registers language overrides
      ((withKeys language AbiFunction.name (abi.boundFunctions customs)).mapM fun (key, f) =>
        return (key, ← bindMethod language key f))
      ((abi.boundFunctions customs).flatMap AbiFunction.tuples) fun names =>
        (withKeys language AbiFunction.name (abi.boundFunctions customs)).map fun (key, f) =>
          (key, namedMethod language names key f) := by
    rw [← flatMap_withKeys language AbiFunction.name]
    exact .mapM fun (key, f) _ => (registers_bindMethod language overrides key f).map (key, ·)
  have hevents : Registers language overrides
      ((withKeys language AbiEvent.name abi.boundEvents).mapM fun (key, e) =>
        return (key, ← bindEvent language key e))
      (abi.boundEvents.flatMap AbiEvent.tuples) fun names =>
        (withKeys language AbiEvent.name abi.boundEvents).map fun (key, e) =>
          (key, namedEvent language names key e) := by
    rw [← flatMap_withKeys language AbiEvent.name]
    exact .mapM fun (key, e) _ => (registers_bindEvent language overrides key e).map (key, ·)
  have hconstructor : Registers language overrides
      (abi.constructor.mapM (bindMethod language ""))
      (abi.constructor.toList.flatMap AbiFunction.tuples) fun names =>
        abi.constructor.map (namedMethod language names "") :=
    .optionMapM fun f => registers_bindMethod language overrides "" f
  exact hmethods.bind fun methods => hevents.bind fun events =>
    hconstructor.map (Classification.ofBound methods events)

end Registered

/-- From the registry without a struct, a classification leaves the registry of the traversal and
has the names of it. -/
theorem of_yields_classify {language : Language} {customs : Customs} {overrides : TextMap String}
    {abi : ContractAbi} {result : Classification} {registry : StructRegistry}
    (h : (classify language customs abi).Yields (.withOverrides overrides) result registry) :
    registry = ofTraversal language overrides (abi.traversal customs) ∧
      result = namedClassification language
        (displayName language overrides (abi.traversal customs)) customs abi := by
  have hnil : ClosedTuples [] := fun _ hmem => absurd hmem List.not_mem_nil
  have hrun := (registers_classify language overrides customs abi).run hnil h
  rwa [List.nil_append] at hrun

/-- **Structs of a classified ABI**: the registry is that of the traversal, although a tuple
whose signature is known is passed over together with the tuples inside it. Each struct is the
record of the first tuple of its signature, under the custom name or the number that it has, and
its fields have the bound types that the names of all structs give. -/
theorem registry_of_classify {language : Language} {customs : Customs}
    {overrides : TextMap String} {abi : ContractAbi} {result : Classification}
    {registry : StructRegistry}
    (h : (classify language customs abi).run (.withOverrides overrides) = (.ok result, registry)) :
    registry = ofTraversal language overrides (abi.traversal customs) ∧
      registry.structs.map (·.signature) =
        (firstTuples (abi.traversal customs)).map tupleSignature ∧
      (∀ (place : Nat) (struct : StructDescriptor), registry.structs[place]? = some struct →
        struct.name =
          (overrides.get? struct.signature).getD (language.structStem ++ toString place)) ∧
      List.Forall₂ (fun fields struct => struct.IsRecordOf language fields ∧
          List.Forall₂ (fun source field => field.abiType = source.2 ∧
            field.boundType = language.boundText
              (displayName language overrides (abi.traversal customs)) source.2)
            fields struct.fields)
        (firstTuples (abi.traversal customs)) registry.structs := by
  obtain ⟨rfl, -⟩ := of_yields_classify h
  refine ⟨rfl, StructRegistry.signatures_ofTraversal, fun place struct hstruct => ?_,
    StructRegistry.forall₂_records_ofTraversal⟩
  rw [StructRegistry.structs_ofTraversal, List.getElem?_mapIdx, Option.map_eq_some_iff] at hstruct
  obtain ⟨fields, -, rfl⟩ := hstruct
  rfl

/-- Two functions and an event share an inner tuple, under other field names. -/
def sharedTuples : ContractAbi :=
  let inner (first second : String) : AbiType :=
    .tuple [(first, .elementary .address), (second, .elementary (.uint 256))]
  let parameter (type : AbiType) : AbiParameter := ⟨"", type, none, false⟩
  { constructor := some ⟨"", [parameter (.slice (inner "a" "b"))], [], .nonpayable⟩
    functions :=
      [⟨"f", [parameter (.tuple [("item", inner "to" "value"), ("", .elementary .bool)])], [],
        .view⟩,
        ⟨"g", [parameter (.array (inner "x" "y") 2)],
          [parameter (.tuple [("", inner "p" "q")])], .nonpayable⟩]
    events := [⟨"Sent", [parameter (.tuple [("flag", .elementary .bool)])], false⟩] }

/-- The inner tuple keeps the field names that it has when it comes first, and the custom name of
the tuple around it counts as a number. -/
theorem registry_of_classify_sharedTuples :
    ∃ result registry,
      (classify .golang .empty sharedTuples).run
          (.withOverrides (.ofList [("((address,uint256),bool)", "Order")])) =
        (.ok result, registry) ∧
      registry = ofTraversal .golang (.ofList [("((address,uint256),bool)", "Order")])
        (sharedTuples.traversal .empty) ∧
      registry.structs.map (fun struct => (struct.name,
        struct.fields.map fun field => (field.name, field.abiType.signature, field.boundType))) =
        [("Struct0", [("To", "address", "common.Address"), ("Value", "uint256", "*big.Int")]),
          ("Order", [("Item", "(address,uint256)", "Struct0"), ("Field1", "bool", "bool")]),
          ("Struct2", [("Field0", "(address,uint256)", "Struct0")]),
          ("Struct3", [("Flag", "bool", "bool")])] ∧
      List.Forall₂ (fun fields struct => struct.IsRecordOf .golang fields)
        (firstTuples (sharedTuples.traversal .empty)) registry.structs := by
  have hrun : (classify .golang .empty sharedTuples).run
      (.withOverrides (.ofList [("((address,uint256),bool)", "Order")])) = (.ok _, _) := rfl
  obtain ⟨hregistry, -, -, hrecords⟩ := registry_of_classify hrun
  exact ⟨_, _, hrun, hregistry, by decide +kernel, hrecords.imp fun _ _ hrecord => hrecord.1⟩

end ContractBindings
