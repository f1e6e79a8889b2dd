import ContractBindings.Abi.Entry
import ContractBindings.Json.Reader

/-!
# Deployments

A deployment is the ABI of a contract, together with what is known about where and when it
was deployed. The ABI is kept as a JSON value, and read when it is needed.
-/

namespace ContractBindings

/-- Byte sequence of a fixed size. -/
abbrev Bytes (size : Nat) := Vector UInt8 size

/-- **Deployment** of a contract. -/
structure Deployment where
  /-- The address of the contract. -/
  address : Option (Bytes 20)
  /-- The hash of the transaction that created it. -/
  txHash : Option (Bytes 32)
  /-- The number of the block that it was created in. -/
  createdAt : Option (BitVec 256)
  /-- The ABI. -/
  abi : Json

/-- What the bindings say about a deployment, in base sixteen. -/
structure DeploymentInfo where
  /-- The address, with its checksum. -/
  address : String
  /-- The hash of the creating transaction. -/
  txHash : Option String
  /-- The number of the creating block, as thirty-two bytes. -/
  createdAt : Option String

/-! ### Addresses -/

/-- An address with its **checksum**: a letter becomes a capital where the digit at its place
in the digest of the small digits is eight or more. -/
def checksumAddress (address : Bytes 20) : String :=
  let digits := hexOfBytes address.toList
  let digest := hexOfBytes (keccakOfText (.ofList digits))
  let raised := digits.zip digest |>.map fun (digit, mark) =>
    if 8 ≤ (digitValue? mark).getD 0 then digit.toUpper else digit
  .ofList ('0' :: 'x' :: raised)

namespace Deployment

/-- The deployment of an ABI of which nothing else is known. -/
def ofAbi (abi : Json) : Deployment := ⟨none, none, none, abi⟩

/-- The deployment of an ABI given as JSON text. -/
def ofAbiText (text : String) : Except BindError Deployment :=
  match Json.ofText? text with
  | some abi => .ok (ofAbi abi)
  | none => .error (.invalidAbi .notJson)

/-- The compact text of the ABI. -/
def rawAbi (deployment : Deployment) : String := deployment.abi.compact

/-- Reads the ABI. -/
def parseAbi (deployment : Deployment) : Except BindError ContractAbi :=
  ContractAbi.ofJson deployment.abi

/-- What the bindings say about a deployment whose address is known. -/
def info? (deployment : Deployment) : Option DeploymentInfo :=
  deployment.address.map fun address =>
    { address := checksumAddress address
      txHash := deployment.txHash.map fun hash => hexLiteral hash.toList
      createdAt := deployment.createdAt.map fun block =>
        .ofList ('0' :: 'x' :: hexTextWide 64 block.toNat) }

end Deployment

/-- Reads a contract ABI from a JSON text. -/
def ContractAbi.ofText (text : String) : Except BindError ContractAbi :=
  Deployment.ofAbiText text >>= Deployment.parseAbi

end ContractBindings
