import ContractBindings.Abi.Contract
import ContractBindings.Config
import ContractBindings.Struct.Resolve

/-!
# Classification of an ABI

Which functions and events of an ABI are bound, under which keys, and with which types. The
functions that leave the state as it is are the **calls**, the others the **transacts**; both
share one namespace of keys, and events have another. Functions left out by the
customizations and anonymous events are passed over before anything else happens, so that
they have no influence on the rest.

Structs are registered in the order functions, events, constructor, and in each by the order
of declaration, inputs before outputs.
-/

namespace ContractBindings

/-- **Argument** of a bound method or event. -/
structure BoundArgument where
  /-- The name. -/
  name : String
  /-- The ABI type. -/
  type : AbiType
  /-- The bound type. -/
  boundType : String
  /-- Whether the value is a topic of the log entry. -/
  indexed : Bool

/-- **Bound method**: a function or constructor with its names and types in the target
language. -/
structure BoundMethod where
  /-- The function. -/
  function : AbiFunction
  /-- The name in the target language. -/
  normalizedName : String
  /-- The inputs. -/
  inputs : List BoundArgument
  /-- The outputs. -/
  outputs : List BoundArgument
  /-- The declaration; there is none before all structs have their names. -/
  declaration : String

/-- **Bound event**: an event with its names and types in the target language. -/
structure BoundEvent where
  /-- The event. -/
  event : AbiEvent
  /-- The name in the target language. -/
  normalizedName : String
  /-- The inputs. -/
  inputs : List BoundArgument
  /-- The declaration; there is none before all structs have their names. -/
  declaration : String

/-- **Classification** of an ABI. -/
structure Classification where
  /-- The methods that leave the state as it is, by key. -/
  calls : TextMap BoundMethod
  /-- The methods that may change the state, by key. -/
  transacts : TextMap BoundMethod
  /-- The events, by key. -/
  events : TextMap BoundEvent
  /-- The constructor. -/
  constructor : Option BoundMethod
  /-- The keys of methods and events, by canonical signature. -/
  signatures : TextMap String

/-! ### Structured outputs -/

/-- Whether every name is there and its capitalized form is neither empty nor seen before. -/
def nameNewFields (seen : List String) : List String → Bool
  | [] => true
  | name :: rest =>
    let field := capitalize name
    if name.isEmpty then false
    else if field.isEmpty || seen.contains field then false
    else nameNewFields (field :: seen) rest

/-- Whether values of the given names can be returned as one record: there are at least two,
and each of them names a field of its own. -/
def namesRecord (names : List String) : Bool :=
  if names.length < 2 then false else nameNewFields [] names

/-- Whether the outputs of a function can be returned as one record. -/
def AbiFunction.hasStructuredOutput (f : AbiFunction) : Bool :=
  namesRecord (f.outputs.map (·.name))

/-! ### Arguments -/

/-- The name of the input at the given place: its own one, or a numbered one. -/
def inputName (parameter : AbiParameter) (place : Nat) : String :=
  if parameter.name.isEmpty then "arg" ++ toString place else parameter.name

/-- Binds the input at the given place. -/
def bindInput (language : Language) (parameter : AbiParameter) (place : Nat) :
    Resolve BoundArgument := do
  let boundType ←
    if parameter.indexed then mapTopicType language parameter.type
    else mapType language parameter.type
  return ⟨inputName parameter place, parameter.type, boundType, parameter.indexed⟩

/-- Binds the inputs of a function or event. -/
def bindInputs (language : Language) (parameters : List AbiParameter) :
    Resolve (List BoundArgument) :=
  parameters.zipIdx.mapM fun (parameter, place) => bindInput language parameter place

/-- Binds an output. -/
def bindOutput (language : Language) (parameter : AbiParameter) : Resolve BoundArgument := do
  let boundType ← mapType language parameter.type
  return ⟨capitalize parameter.name, parameter.type, boundType, false⟩

/-! ### Methods and events -/

/-- Binds a function or constructor under a key. -/
def bindMethod (language : Language) (key : String) (f : AbiFunction) :
    Resolve BoundMethod := do
  let inputs ← bindInputs language f.inputs
  let outputs ← f.outputs.mapM (bindOutput language)
  return ⟨f, language.methodName key, inputs, outputs, ""⟩

/-- Binds an event under a key. -/
def bindEvent (language : Language) (key : String) (e : AbiEvent) : Resolve BoundEvent := do
  let inputs ← bindInputs language e.inputs
  return ⟨e, language.methodName key, inputs, ""⟩

/-- Entries of one namespace with their keys. -/
def withKeys {α : Type} (language : Language) (name : α → String) (entries : List α) :
    List (String × α) :=
  (language.claimKeys (entries.map name)).zip entries

/-! ### Contracts -/

/-- The functions of an ABI that are bound. -/
def ContractAbi.boundFunctions (abi : ContractAbi) (customs : Customs) : List AbiFunction :=
  abi.functions.filter fun f => customs.includesMethod f.name

/-- The events of an ABI that are bound. -/
def ContractAbi.boundEvents (abi : ContractAbi) : List AbiEvent :=
  abi.events.filter fun e => !e.anonymous

/-- The classification that bound methods and events with their keys make up. Of a signature
that several of them have, the last key counts, events after methods. -/
def Classification.ofBound (methods : List (String × BoundMethod))
    (events : List (String × BoundEvent)) (constructor : Option BoundMethod) :
    Classification where
  calls := .ofList (methods.filter (·.2.function.isConstant))
  transacts := .ofList (methods.filter (!·.2.function.isConstant))
  events := .ofList events
  constructor := constructor
  signatures := .ofList <|
    methods.map (fun (key, method) => (method.function.signature, key)) ++
      events.map fun (key, event) => (event.event.signature, key)

/-- **Classifies** an ABI. -/
def classify (language : Language) (customs : Customs) (abi : ContractAbi) :
    Resolve Classification := do
  let functions := withKeys language AbiFunction.name (abi.boundFunctions customs)
  let methods ← functions.mapM fun (key, f) => return (key, ← bindMethod language key f)
  let named := withKeys language AbiEvent.name abi.boundEvents
  let events ← named.mapM fun (key, e) => return (key, ← bindEvent language key e)
  let constructor ← abi.constructor.mapM (bindMethod language "")
  return .ofBound methods events constructor

end ContractBindings
