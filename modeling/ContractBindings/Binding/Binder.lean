import ContractBindings.Binding.Model

/-!
# Binding contracts

A binder is a configuration without a fault. `Binder.bind` makes the model of one contract,
always starting from an empty registry, so that contracts have no influence on each other.
`bindDeployments` makes the models of many: a contract that cannot be bound is reported
under its own name and does not stop the others.

Models may be made concurrently. `bindConcurrently` takes the order in which the tasks are
completed as an argument; the results are the same in every order.

No result depends on what is written to a log, which is left out here, and a task always has an
outcome: one that is cancelled or broken off is not a task of this model.
-/

namespace ContractBindings

/-- **Binder**: a configuration without a fault. -/
structure Binder where
  /-- The configuration. -/
  config : BindConfig
  /-- The configuration has no fault. -/
  valid : config.fault? = none

namespace Binder

/-- The binder for a configuration. -/
def ofConfig (config : BindConfig) : Except BindError Binder :=
  match h : config.fault? with
  | none => .ok ⟨config, h⟩
  | some fault => .error (.config fault)

/-- The model that a classification and its structs make up, if no two structs have the same
display name. Methods and events are declared with the names of the structs. -/
def assemble (binder : Binder) (name : String) (deployment : Deployment)
    (classification : Classification) (structs : StructRegistry) :
    Except BindError ContractModel := do
  structs.checkNames
  return {
    name := name
    language := binder.config.language
    platform := binder.config.platform
    inputAbi := stripAbi deployment.rawAbi
    classification := classification.declared structs
    structs := structs
    imports := mergeImports
      [binder.config.platform.imports, (binder.config.customsFor name).imports]
    deployment := deployment.info? }

/-- **Binds** one contract. -/
def bind (binder : Binder) (name : String) (deployment : Deployment) :
    Except BindError ContractModel := do
  let abi ← deployment.parseAbi
  let customs := binder.config.customsFor name
  let (result, structs) :=
    (classify binder.config.language customs abi).run (.withOverrides customs.structs)
  binder.assemble name deployment (← result) structs

/-- Binds a contract whose ABI is given as JSON text. -/
def bindAbiText (binder : Binder) (name text : String) : Except BindError ContractModel := do
  binder.bind name (← Deployment.ofAbiText text)

end Binder

/-! ### Many contracts -/

/-- The outcome for each of many contracts. -/
abbrev BindResults := TextMap (Except BindError ContractModel)

/-- **Binds** every deployment, in ascending order of the names. -/
def bindDeployments (config : BindConfig) (deployments : TextMap Deployment) :
    Except BindError BindResults := do
  let binder ← Binder.ofConfig config
  return deployments.map binder.bind

/-- Order in which the tasks for some deployments are completed. -/
abbrev Completion (deployments : TextMap Deployment) :=
  { order : List (String × Deployment) // order.Perm deployments.entries }

/-- Binds every deployment in a task of its own, and collects the results in the order in
which the tasks are completed. -/
def bindConcurrently (config : BindConfig) (deployments : TextMap Deployment)
    (completion : Completion deployments) : Except BindError BindResults := do
  let binder ← Binder.ofConfig config
  return .ofList (completion.val.map fun (name, deployment) => (name, binder.bind name deployment))

end ContractBindings
