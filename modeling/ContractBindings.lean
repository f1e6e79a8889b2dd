import ContractBindings.Binding.Binder
import ContractBindings.Binding.ModelFormat
import ContractBindings.Config.Format
import ContractBindings.Naming.Snake
import ContractBindings.TextMap.Lookup
import ContractBindings.Proofs.Abi.Legal
import ContractBindings.Proofs.Abi.Shape
import ContractBindings.Proofs.Abi.TypeText
import ContractBindings.Proofs.Abi.TypeGrammar
import ContractBindings.Proofs.Struct.Run
import ContractBindings.Proofs.Struct.Traversal
import ContractBindings.Proofs.Struct.Registration
import ContractBindings.Proofs.Binding.Traversal
import ContractBindings.Proofs.Binding.Lookup
import ContractBindings.Proofs.Json.Reading
import ContractBindings.Proofs.Binding.InputAbi
import ContractBindings.Proofs.Struct.Growth
import ContractBindings.Proofs.Struct.Invariant
import ContractBindings.Proofs.Struct.Records
import ContractBindings.Proofs.Struct.Requests
import ContractBindings.Proofs.Struct.Stability
import ContractBindings.Proofs.Struct.DisplayNames
import ContractBindings.Proofs.Binding.ClaimedKeys
import ContractBindings.Proofs.Binding.BoundTypes
import ContractBindings.Proofs.Abi.Description
import ContractBindings.Proofs.Abi.Rendering
import ContractBindings.Proofs.Binding.Faults
import ContractBindings.Proofs.Binding.Appending
import ContractBindings.Proofs.Binding.EntryByEntry
import ContractBindings.Proofs.Binding.Clashes
import ContractBindings.Proofs.Binding.Batches
import ContractBindings.Proofs.Binding.ParameterNames
import ContractBindings.Proofs.Binding.Overloads
import ContractBindings.Proofs.Naming.Fields
import ContractBindings.Proofs.Naming.Identifiers
import ContractBindings.Proofs.Binding.InputNames
import ContractBindings.Proofs.Binding.Identifiers
import ContractBindings.Proofs.Abi.Blanks
import ContractBindings.Proofs.Naming.Casing
import ContractBindings.Proofs.Naming.SnakeCase
import ContractBindings.Proofs.Naming.SnakeStability
import ContractBindings.Proofs.Binding.StructNames
import ContractBindings.Proofs.Binding.Layering
import ContractBindings.Proofs.Struct.Nesting
import ContractBindings.Proofs.Naming.WidthNames
import ContractBindings.Proofs.Struct.NumberedNames
import ContractBindings.Proofs.Naming.BracketNames
import ContractBindings.Proofs.Naming.Searches
import ContractBindings.Proofs.Binding.StructuredOutputs
import ContractBindings.Proofs.Binding.ConstructorSignature
import ContractBindings.Proofs.Struct.Topics
