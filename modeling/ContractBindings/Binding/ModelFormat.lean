import ContractBindings.Binding.Model
import ContractBindings.Deployment.Format

/-!
# Contract models as JSON

The form in which a model is handed to a renderer. Types are written as their canonical
signatures.
-/

namespace ContractBindings

namespace BoundArgument

/-- An argument as a JSON value. -/
def toJson (argument : BoundArgument) : Json :=
  .object
    [("name", .string argument.name),
     ("type", .string argument.type.signature),
     ("bound_type", .string argument.boundType),
     ("indexed", .bool argument.indexed)]

end BoundArgument

namespace BoundMethod

/-- A method as a JSON value. -/
def toJson (method : BoundMethod) : Json :=
  .object
    [("original_name", .string method.function.name),
     ("original_signature", .string method.function.signature),
     ("selector", .string method.function.selector),
     ("normalized_name", .string method.normalizedName),
     ("inputs", .array (method.inputs.map BoundArgument.toJson)),
     ("outputs", .array (method.outputs.map BoundArgument.toJson)),
     ("read_only", .bool method.function.isConstant),
     ("payable", .bool method.function.isPayable),
     ("structured_output", .bool method.function.hasStructuredOutput),
     ("declaration", .string method.declaration)]

end BoundMethod

namespace BoundEvent

/-- An event as a JSON value. -/
def toJson (event : BoundEvent) : Json :=
  .object
    [("original_name", .string event.event.name),
     ("normalized_name", .string event.normalizedName),
     ("signature", .string event.event.signature),
     ("topic", .string event.event.topic),
     ("inputs", .array (event.inputs.map BoundArgument.toJson)),
     ("declaration", .string event.declaration)]

end BoundEvent

namespace StructDescriptor

/-- A struct as a JSON value. -/
def toJson (struct : StructDescriptor) : Json :=
  let field (f : StructField) : Json :=
    .object
      [("name", .string f.name),
       ("type", .string f.boundType),
       ("abi_type", .string f.abiType.signature)]
  .object
    [("name", .string struct.name),
     ("signature", .string struct.signature),
     ("fields", .array (struct.fields.map field))]

end StructDescriptor

/-- A registry as a JSON value: its structs in the order of their creation. -/
def StructRegistry.toJson (registry : StructRegistry) : Json :=
  .array (registry.structs.map StructDescriptor.toJson)

namespace ContractModel

/-- A model as a JSON value. -/
def toJson (model : ContractModel) : Json :=
  let bound := model.classification
  .object
    [("name", .string model.name),
     ("type_name", .string model.typeName),
     ("language", .string model.language.tag),
     ("platform", .string model.platform.tag),
     ("input_abi", .string model.inputAbi),
     ("constructor_signature", .string model.constructorSignature),
     ("constructor", (bound.constructor.map BoundMethod.toJson).getD .null),
     ("calls", .ofMap BoundMethod.toJson bound.calls),
     ("transacts", .ofMap BoundMethod.toJson bound.transacts),
     ("events", .ofMap BoundEvent.toJson bound.events),
     ("structs", model.structs.toJson),
     ("imports", .ofMap .string model.imports),
     ("deployment", (model.deployment.map DeploymentInfo.toJson).getD .null),
     ("signatures", .ofMap .string bound.signatures)]

end ContractModel

end ContractBindings
