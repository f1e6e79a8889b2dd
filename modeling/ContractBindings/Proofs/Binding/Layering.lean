import ContractBindings.Proofs.Binding.Lookup
import ContractBindings.TextMap.Lookup

/-!
# Layers of customizations

Customizations that are laid over each other are looked up from the last layer down: a key has its
value in the last layer that has the key (`IsLastValue`). All three maps of `Customs` are layered in
this way (`Customs.IsLayered`), so that each lemma about layers is stated once, for any of them.

Two layers are in effect for a contract, its own one over that for every contract, and the imports
of a model have the platform's table underneath both (`layering_of_customs`). The methods that are
bound are the exception to key by key: a single entry in either layer takes away all methods without
an entry.
-/

namespace ContractBindings

/-! ### Last values -/

/-- **Last value** in a list of layers: a layer has it, and no layer behind that one has any. -/
def IsLastValue {Layer α : Type} (value? : Layer → Option α) (layers : List Layer)
    (value : α) : Prop :=
  ∃ before layer after, layers = before ++ layer :: after ∧ value? layer = some value ∧
    ∀ later ∈ after, value? later = none

theorem isLastValue_iff {Layer α : Type} {value? : Layer → Option α} {layers : List Layer}
    {value : α} :
    IsLastValue value? layers value ↔ layers.reverse.findSome? value? = some value := by
  rw [List.findSome?_eq_some_iff]
  constructor
  · rintro ⟨before, layer, after, rfl, hvalue, hlater⟩
    refine ⟨after.reverse, layer, before.reverse, by simp, hvalue, fun later hmem => ?_⟩
    exact hlater later (List.mem_reverse.mp hmem)
  · rintro ⟨after, layer, before, hlayers, hvalue, hlater⟩
    refine ⟨before.reverse, layer, after.reverse, ?_, hvalue, fun later hmem => ?_⟩
    · rw [← List.reverse_reverse layers, hlayers]
      simp
    · exact hlater later (List.mem_reverse.mp hmem)

namespace TextMap

variable {α : Type}

/-- In maps laid over each other a key has its value in the last one that has the key, or else in
the map underneath. -/
theorem get?_foldl_union (map : TextMap α) (tables : List (TextMap α)) (key : String) :
    (tables.foldl union map).get? key =
      (tables.reverse.findSome? (·.get? key)).or (map.get? key) := by
  induction tables generalizing map with
  | nil => rfl
  | cons table rest ih =>
    rw [List.foldl_cons, ih, get?_union, List.reverse_cons, List.findSome?_append,
      List.findSome?_singleton, Option.or_assoc]

theorem isEmpty_iff {map : TextMap α} : map.isEmpty = true ↔ ∀ key, map.get? key = none := by
  rw [isEmpty, List.isEmpty_iff]
  constructor
  · intro h key
    rw [get?, h, List.lookup_nil]
  · intro h
    refine List.eq_nil_iff_forall_not_mem.mpr fun entry hmem => ?_
    have hvalue : map.get? entry.1 = some entry.2 := get?_eq_some_iff.mpr hmem
    rw [h entry.1] at hvalue
    cases hvalue

end TextMap

/-! ### Maps of customizations -/

namespace Customs

variable {α : Type} {field : Customs → TextMap α}

/-- **Layered** map of customizations: it is laid over the same map of the layer underneath. -/
structure IsLayered (field : Customs → TextMap α) : Prop where
  /-- Without customizations it has no key. -/
  empty : field .empty = .empty
  /-- Its upper layer is that of the upper customizations. -/
  merge : ∀ lower upper, field (lower.merge upper) = (field lower).union (field upper)

theorem isLayered_structs : IsLayered structs := ⟨rfl, fun _ _ => rfl⟩

theorem isLayered_methods : IsLayered methods := ⟨rfl, fun _ _ => rfl⟩

theorem isLayered_imports : IsLayered imports := ⟨rfl, fun _ _ => rfl⟩

namespace IsLayered

/-- Merging customizations lays the maps over each other. -/
theorem foldl_merge (h : IsLayered field) (lower : Customs) (layers : List Customs) :
    field (layers.foldl Customs.merge lower) = (layers.map field).foldl .union (field lower) := by
  induction layers generalizing lower with
  | nil => rfl
  | cons layer rest ih => rw [List.foldl_cons, ih, h.merge, List.map_cons, List.foldl_cons]

/-- **The last layer wins**: among merged customizations a key has its last value. -/
theorem get?_foldl_merge (h : IsLayered field) {layers : List Customs} {key : String} {value : α} :
    (field (layers.foldl Customs.merge .empty)).get? key = some value ↔
      IsLastValue (fun layer => (field layer).get? key) layers value := by
  rw [h.foldl_merge, h.empty, TextMap.get?_foldl_union, TextMap.get?_empty, Option.or_none,
    ← List.map_reverse, List.findSome?_map, isLastValue_iff]
  rfl

end IsLayered

/-- **Layering** of customizations: the keys of all three maps have their last values in the layers,
and there are no other keys. -/
structure IsLayering (customs : Customs) (layers : List Customs) : Prop where
  /-- A signature has the last display name for it. -/
  structs : ∀ signature name, customs.structs.get? signature = some name ↔
    IsLastValue (fun layer => layer.structs.get? signature) layers name
  /-- A method has its last flag. -/
  methods : ∀ method flag, customs.methods.get? method = some flag ↔
    IsLastValue (fun layer => layer.methods.get? method) layers flag
  /-- An alias has its last path. -/
  imports : ∀ key path, customs.imports.get? key = some path ↔
    IsLastValue (fun layer => layer.imports.get? key) layers path

end Customs

/-! ### Two layers -/

namespace BindConfig

variable {α : Type} {field : Customs → TextMap α}

/-- The value of a key in one map of the customizations that are given under a name. -/
def setting? (config : BindConfig) (field : Customs → TextMap α) (name key : String) : Option α :=
  (config.customs.get? name).bind fun customs => (field customs).get? key

/-- The value of a key in one map of the customizations for a contract: the contract's **own** one,
or else the one for every contract. -/
def effective? (config : BindConfig) (field : Customs → TextMap α) (contract key : String) :
    Option α :=
  (config.setting? field contract key).or (config.setting? field defaultName key)

theorem get?_customsFor (h : Customs.IsLayered field) (config : BindConfig)
    (contract key : String) :
    (field (config.customsFor contract)).get? key = config.effective? field contract key := by
  have hshared : (field ((config.customs.get? defaultName).getD .empty)).get? key =
      config.setting? field defaultName key := by
    rw [setting?]
    cases config.customs.get? defaultName with
    | none => rw [Option.getD_none, h.empty, TextMap.get?_empty, Option.bind_none]
    | some shared => rfl
  rw [customsFor, effective?, ← hshared, setting?]
  cases config.customs.get? contract with
  | none => rw [Option.bind_none, Option.none_or]
  | some own => exact (congrArg (·.get? key) (h.merge _ own)).trans (TextMap.get?_union _ _ _)

/-- A method is bound if no layer has an entry for any method, or its effective flag says so. -/
theorem includesMethod_customsFor {config : BindConfig} {contract method : String} :
    (config.customsFor contract).includesMethod method = true ↔
      (∀ other, config.setting? Customs.methods contract other = none ∧
        config.setting? Customs.methods defaultName other = none) ∨
      config.effective? Customs.methods contract method = some true := by
  rw [Customs.includesMethod, Bool.or_eq_true, TextMap.isEmpty_iff]
  simp only [config.get?_customsFor Customs.isLayered_methods]
  refine or_congr (forall_congr' fun other => Option.or_eq_none_iff) ?_
  cases config.effective? Customs.methods contract method <;> simp

end BindConfig

/-- The imports of a model are those of its contract over those of its platform. -/
theorem Binder.get?_imports_of_bind {binder : Binder} {name : String} {deployment : Deployment}
    {model : ContractModel} (h : binder.bind name deployment = .ok model) (key : String) :
    model.imports.get? key = (binder.config.effective? Customs.imports name key).or
      (binder.config.platform.imports.get? key) := by
  obtain ⟨_, result, structs, -, -, hassemble⟩ := Binder.bind_eq_ok_iff.mp h
  obtain ⟨-, rfl⟩ := Binder.assemble_eq_ok_iff.mp hassemble
  rw [← BindConfig.get?_customsFor Customs.isLayered_imports]
  change (TextMap.union (TextMap.union .empty _) _).get? key = _
  rw [TextMap.get?_union, TextMap.get?_union, TextMap.get?_empty, Option.or_none]

/-- **Layers of customizations**: of any number of layers the last one with a key decides its value.
A contract's own customizations come before those for every contract, key by key, and the imports of
its model have those of the platform underneath. Methods are left out as soon as one of the two
layers has an entry for any method, unless their own entry in effect keeps them. -/
theorem layering_of_customs (layers : List Customs) (config : BindConfig) (contract : String) :
    (layers.foldl Customs.merge .empty).IsLayering layers ∧
      (∀ signature, (config.customsFor contract).structs.get? signature =
        config.effective? Customs.structs contract signature) ∧
      (∀ method, (config.customsFor contract).methods.get? method =
        config.effective? Customs.methods contract method) ∧
      (∀ key, (config.customsFor contract).imports.get? key =
        config.effective? Customs.imports contract key) ∧
      (∀ method, (config.customsFor contract).includesMethod method = true ↔
        (∀ other, config.setting? Customs.methods contract other = none ∧
          config.setting? Customs.methods BindConfig.defaultName other = none) ∨
        config.effective? Customs.methods contract method = some true) ∧
      ∀ (binder : Binder) (deployment : Deployment) (model : ContractModel),
        binder.bind contract deployment = .ok model → ∀ key, model.imports.get? key =
          (binder.config.effective? Customs.imports contract key).or
            (binder.config.platform.imports.get? key) where
  left := ⟨fun _ _ => Customs.isLayered_structs.get?_foldl_merge,
    fun _ _ => Customs.isLayered_methods.get?_foldl_merge,
    fun _ _ => Customs.isLayered_imports.get?_foldl_merge⟩
  right := ⟨config.get?_customsFor Customs.isLayered_structs contract,
    config.get?_customsFor Customs.isLayered_methods contract,
    config.get?_customsFor Customs.isLayered_imports contract,
    fun _ => BindConfig.includesMethod_customsFor,
    fun _ _ _ => Binder.get?_imports_of_bind⟩

/-- The customizations for every contract and for `C`, of which the first ones keep one method. -/
def overlaidCustoms : BindConfig :=
  ⟨.golang, .ethereum, .ofList
    [("default", ⟨.empty, .ofList [("owner", true)],
        .ofList [("common", "example.com/common"), ("types", "example.com/types")]⟩),
      ("C", ⟨.empty, .empty, .ofList [("types", "example.com/c/types")]⟩)]⟩

/-- The binder for these customizations. -/
def overlaidBinder : Binder := ⟨overlaidCustoms, rfl⟩

theorem layering_of_customs_overlaid :
    ∃ model, overlaidBinder.bind "C" (.ofAbi (.array [])) = .ok model ∧
      model.imports.get? "types" = some "example.com/c/types" ∧
      model.imports.get? "common" = some "example.com/common" ∧
      model.imports.get? "event" = some "github.com/ethereum/go-ethereum/event" ∧
      model.imports.get? "errors" = none ∧
      (overlaidCustoms.customsFor "C").includesMethod "owner" = true ∧
      ¬(overlaidCustoms.customsFor "C").includesMethod "pause" = true := by
  obtain ⟨-, -, -, -, hmethods, himports⟩ := layering_of_customs [] overlaidCustoms "C"
  obtain ⟨model, hmodel⟩ : ∃ model, overlaidBinder.bind "C" (.ofAbi (.array [])) = .ok model :=
    ⟨_, rfl⟩
  have hpath := himports overlaidBinder _ model hmodel
  refine ⟨model, hmodel, (hpath "types").trans (by decide), (hpath "common").trans (by decide),
    (hpath "event").trans (by decide), (hpath "errors").trans (by decide),
    (hmethods "owner").mpr (.inr (by decide)), fun hpause => ?_⟩
  rcases (hmethods "pause").mp hpause with hnone | hflag
  · exact absurd (hnone "owner").2 (by decide)
  · exact absurd hflag (by decide)

end ContractBindings
