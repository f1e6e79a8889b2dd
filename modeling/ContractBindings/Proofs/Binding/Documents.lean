import ContractBindings.Binding.ModelFormat
import ContractBindings.Json.Member
import Mathlib.Data.List.Forall2

/-!
# Documents of models

A renderer of bindings sees a model through its document only, that is, as a JSON value. What it
finds there is read off here without looking at how documents are written: the text under a name
(`Json.textAt?`), those of all items of an array (`Json.textsAt?`), and the members of an object
key by key (`Json.Lists`).

The document of a model shows all names, types and declarations that the model has
(`ContractModel.isShownIn_toJson`).
-/

namespace ContractBindings

/-! ### Reading documents -/

namespace Json

/-- The text under the given name. -/
def textAt? (document : Json) (name : String) : Option String := do
  (← document.get? name).text?

/-- The texts under the given member, of all items of the array under the given name. -/
def textsAt? (document : Json) (name member : String) : Option (List String) := do
  (← (← document.get? name).items?).mapM fun item => item.textAt? member

/-- **Listing** of a map: the members of the object under the given name have the keys of the map
and show its values. -/
def Lists {α : Type} (document : Json) (name : String) (map : TextMap α)
    (Shows : α → Json → Prop) : Prop :=
  ∃ members, document.get? name = some (.object members) ∧
    List.Forall₂ (fun entry member => member.1 = entry.1 ∧ Shows entry.2 member.2) map.entries
      members

variable {α : Type} {document : Json} {name : String}

theorem textsAt?_of_items {member : String} {items : List α} {render : α → Json} {f : α → String}
    (h : document.get? name = some (.array (items.map render)))
    (hmember : ∀ item, (render item).textAt? member = some (f item)) :
    document.textsAt? name member = some (items.map f) := by
  have hitems : (items.map render).mapM (fun item => item.textAt? member) = some (items.map f) := by
    clear h
    induction items with
    | nil => rfl
    | cons item rest ih =>
      rw [List.map_cons, List.mapM_cons, hmember, ih]
      rfl
  rw [textsAt?, h]
  exact hitems

/-- A map that is written value by value is listed. -/
theorem lists_of_ofMap {map : TextMap α} {render : α → Json} {Shows : α → Json → Prop}
    (h : document.get? name = some (.ofMap render map))
    (hshows : ∀ entry ∈ map.entries, Shows entry.2 (render entry.2)) :
    document.Lists name map Shows := by
  refine ⟨_, h, ?_⟩
  rw [TextMap.map, List.forall₂_map_right_iff, List.forall₂_same]
  exact fun entry hentry => ⟨rfl, hshows entry hentry⟩

end Json

/-! ### What documents show -/

/-- **Arguments shown** in the array under the given name. -/
structure ArgumentsShownIn (arguments : List BoundArgument) (document : Json) (name : String) :
    Prop where
  /-- The names are those of the arguments. -/
  names : document.textsAt? name "name" = some (arguments.map (·.name))
  /-- The types are those of the arguments, as canonical signatures. -/
  types : document.textsAt? name "type" = some (arguments.map (·.type.signature))
  /-- The bound types are those of the arguments. -/
  boundTypes : document.textsAt? name "bound_type" = some (arguments.map (·.boundType))

/-- **Method shown** in a document. -/
structure BoundMethod.IsShownIn (method : BoundMethod) (document : Json) : Prop where
  /-- The inputs are shown. -/
  inputs : ArgumentsShownIn method.inputs document "inputs"
  /-- The outputs are shown. -/
  outputs : ArgumentsShownIn method.outputs document "outputs"
  /-- The declaration is that of the method. -/
  declaration : document.textAt? "declaration" = some method.declaration

/-- **Event shown** in a document. -/
structure BoundEvent.IsShownIn (event : BoundEvent) (document : Json) : Prop where
  /-- The inputs are shown. -/
  inputs : ArgumentsShownIn event.inputs document "inputs"
  /-- The declaration is that of the event. -/
  declaration : document.textAt? "declaration" = some event.declaration

/-- **Struct shown** in a document. -/
structure StructDescriptor.IsShownIn (struct : StructDescriptor) (document : Json) : Prop where
  /-- The name is the display name. -/
  name : document.textAt? "name" = some struct.name
  /-- The signature is that of the struct. -/
  signature : document.textAt? "signature" = some struct.signature
  /-- The names of the fields are those of the struct. -/
  fieldNames : document.textsAt? "fields" "name" = some (struct.fields.map (·.name))
  /-- The bound types of the fields are those of the struct. -/
  fieldTypes : document.textsAt? "fields" "type" = some (struct.fields.map (·.boundType))

/-- **Model shown** in a document: nothing that is bound is left out or written otherwise. -/
structure ContractModel.IsShownIn (model : ContractModel) (document : Json) : Prop where
  /-- The calls are listed. -/
  calls : document.Lists "calls" model.classification.calls BoundMethod.IsShownIn
  /-- The transacts are listed. -/
  transacts : document.Lists "transacts" model.classification.transacts BoundMethod.IsShownIn
  /-- The events are listed. -/
  events : document.Lists "events" model.classification.events BoundEvent.IsShownIn
  /-- The constructor is shown if there is one. -/
  constructor : ∀ method ∈ model.classification.constructor,
    ∃ inner, document.get? "constructor" = some inner ∧ method.IsShownIn inner
  /-- The structs are shown in the order of their creation. -/
  structs : ∃ items, document.get? "structs" = some (.array items) ∧
    List.Forall₂ StructDescriptor.IsShownIn model.structs.structs items

/-! ### Written documents -/

theorem argumentsShownIn_of_items {arguments : List BoundArgument} {document : Json}
    {name : String}
    (h : document.get? name = some (.array (arguments.map BoundArgument.toJson))) :
    ArgumentsShownIn arguments document name where
  names := Json.textsAt?_of_items h fun _ => rfl
  types := Json.textsAt?_of_items h fun _ => rfl
  boundTypes := Json.textsAt?_of_items h fun _ => rfl

theorem BoundMethod.isShownIn_toJson (method : BoundMethod) : method.IsShownIn method.toJson where
  inputs := argumentsShownIn_of_items rfl
  outputs := argumentsShownIn_of_items rfl
  declaration := rfl

theorem BoundEvent.isShownIn_toJson (event : BoundEvent) : event.IsShownIn event.toJson where
  inputs := argumentsShownIn_of_items rfl
  declaration := rfl

theorem StructDescriptor.isShownIn_toJson (struct : StructDescriptor) :
    struct.IsShownIn struct.toJson where
  name := rfl
  signature := rfl
  fieldNames := Json.textsAt?_of_items rfl fun _ => rfl
  fieldTypes := Json.textsAt?_of_items rfl fun _ => rfl

/-- A model is shown in its document. -/
theorem ContractModel.isShownIn_toJson (model : ContractModel) : model.IsShownIn model.toJson where
  calls := Json.lists_of_ofMap rfl fun entry _ => entry.2.isShownIn_toJson
  transacts := Json.lists_of_ofMap rfl fun entry _ => entry.2.isShownIn_toJson
  events := Json.lists_of_ofMap rfl fun entry _ => entry.2.isShownIn_toJson
  constructor := by
    intro method hmethod
    have hinner : model.toJson.get? "constructor" =
        some ((model.classification.constructor.map BoundMethod.toJson).getD .null) := rfl
    rw [Option.mem_def.mp hmethod] at hinner
    exact ⟨_, hinner, method.isShownIn_toJson⟩
  structs := by
    refine ⟨_, rfl, ?_⟩
    rw [List.forall₂_map_right_iff, List.forall₂_same]
    exact fun struct _ => struct.isShownIn_toJson

end ContractBindings
