import ContractBindings.Binding.Declaration
import ContractBindings.Deployment
import ContractBindings.Text.Blank

/-!
# Contract models

A model holds everything that a renderer of bindings needs to know about one contract. A
signature leads to the method, event or struct that is bound for it.
-/

namespace ContractBindings

/-- The text of an ABI for use inside a string literal: without blanks, and with a backslash
before every quote. -/
def stripAbi (raw : String) : String :=
  .ofList ((dropBlanks raw.toList).flatMap fun c => if c = '"' then ['\\', '"'] else [c])

/-- **Contract model**. -/
structure ContractModel where
  /-- The name of the contract. -/
  name : String
  /-- The language of the bindings. -/
  language : Language
  /-- The platform of the contract. -/
  platform : Platform
  /-- The ABI for use inside a string literal. -/
  inputAbi : String
  /-- The bound methods and events. -/
  classification : Classification
  /-- The structs. -/
  structs : StructRegistry
  /-- The imports, by alias. -/
  imports : TextMap String
  /-- What is known about the deployment. -/
  deployment : Option DeploymentInfo

namespace ContractModel

/-- The type name of the bindings. -/
def typeName (model : ContractModel) : String := capitalize model.name

/-- The canonical signature of the constructor, and that of no parameters where there is no
constructor. -/
def constructorSignature (model : ContractModel) : String :=
  match model.classification.constructor with
  | some method => method.function.signature
  | none => "()"

/-- The struct for a canonical signature. -/
def structFor? (model : ContractModel) (signature : String) : Option StructDescriptor :=
  model.structs.get? signature

/-- The method under the key that a canonical signature has. -/
def methodBySignature? (model : ContractModel) (signature : String) : Option BoundMethod := do
  let key ← model.classification.signatures.get? signature
  model.classification.calls.get? key <|> model.classification.transacts.get? key

/-- The event under the key that a canonical signature has, if it has that signature. -/
def eventBySignature? (model : ContractModel) (signature : String) : Option BoundEvent := do
  let key ← model.classification.signatures.get? signature
  let event ← model.classification.events.get? key
  if event.event.signature = signature then some event else none

end ContractModel

end ContractBindings
