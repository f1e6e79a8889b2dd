import ContractBindings.Deployment
import ContractBindings.Json.Record

/-!
# Reading and writing deployments

The ABI of a deployment has to be written, and may be any value. The other fields may be left
out or null. Addresses and hashes are byte sequences of an exact size, and `Deployment.shape`
says where they stand; block numbers are below `2 ^ 256`.
-/

namespace ContractBindings

/-! ### Byte sequences -/

/-- A list of bytes of the given size. -/
def Bytes.ofList? (size : Nat) (bytes : List UInt8) : Option (Bytes size) :=
  if h : bytes.length = size then some ⟨bytes.toArray, by simpa using h⟩ else none

namespace Document

/-- A byte written as a number. -/
def byte? : Document → Option UInt8
  | number literal => literal.byte?
  | _ => none

/-- A byte sequence of the given size, in base sixteen or as a list of bytes. -/
def bytes? (size : Nat) : Document → Option (Bytes size)
  | string units => do
    let digits ← unitChars? units
    Bytes.ofList? size (← bytesOfHex? digits)
  | array items => do
    Bytes.ofList? size (← items.mapM byte?)
  | _ => none

end Document

/-! ### Block numbers -/

/-- The digits of a numeral and their base, which a mark in front decides. -/
def splitBase : List Char → Nat × List Char
  | '0' :: 'x' :: digits => (16, digits)
  | '0' :: 'X' :: digits => (16, digits)
  | '0' :: 'o' :: digits => (8, digits)
  | '0' :: 'O' :: digits => (8, digits)
  | '0' :: 'b' :: digits => (2, digits)
  | '0' :: 'B' :: digits => (2, digits)
  | digits => (10, digits)

/-- A number of 256 bits. -/
def word256? (value : Nat) : Option (BitVec 256) :=
  if value < Nat.pow 2 256 then some (.ofNat 256 value) else none

/-- A number of 256 bits from its numeral. Underscores do not count, and a numeral without
digits is zero. -/
def word256OfNumeral? (text : List Char) : Option (BitVec 256) := do
  let (base, digits) := splitBase text
  let values ← (digits.filter (· != '_')).mapM (digitBelow? base)
  word256? (positional base values)

/-- A block number, written as a number of 64 bits or as a numeral. -/
def Document.word256? : Document → Option (BitVec 256)
  | number literal =>
    match literal.value? with
    | some (.integer value) =>
      if 0 ≤ value then ContractBindings.word256? value.toNat else none
    | _ => none
  | string units => unitChars? units >>= word256OfNumeral?
  | _ => none

/-! ### Deployments -/

/-- A field that may be left out or null. -/
def Document.optional? {α : Type} (read : Document → Option α) :
    Option Document → Option (Option α)
  | none => some none
  | some null => some none
  | some value => (read value).map some

namespace Deployment

/-- The names of the fields, in order. -/
def fieldNames : List String := ["address", "tx_hash", "created_at", "abi"]

/-- The shape of a deployment: its address and its hash are byte sequences. -/
def shape : Shape :=
  .record (fieldNames.zip [.bytes 20, .bytes 32, .any, .any])

/-- Reads a deployment from a document in which `depth` levels of nesting are allowed. -/
def ofDocument? (depth : Nat) (document : Document) : Option Deployment := do
  match ← document.fields? fieldNames with
  | [address, txHash, createdAt, some abi] =>
    let address ← Document.optional? (Document.bytes? 20) address
    let txHash ← Document.optional? (Document.bytes? 32) txHash
    let createdAt ← Document.optional? Document.word256? createdAt
    let abi ← abi.toJson? (depth - 1)
    return ⟨address, txHash, createdAt, abi⟩
  | _ => none

/-- Reads a deployment from a JSON text. -/
def ofText (text : String) : Except BindError Deployment :=
  match Document.ofShapedText? shape text >>= ofDocument? Document.maxDepth with
  | some deployment => .ok deployment
  | none => .error .serialization

/-- Reads deployments by contract from a JSON text. -/
def mapOfText (text : String) : Except BindError (TextMap Deployment) :=
  let document := Document.ofShapedText? (.map shape) text
  match document >>= Document.map? (ofDocument? (Document.maxDepth - 1)) with
  | some deployments => .ok deployments
  | none => .error .serialization

/-- A deployment as a JSON value, the fields in order. -/
def toJson (deployment : Deployment) : Json :=
  let bytes {size : Nat} (value : Option (Bytes size)) : Json :=
    .ofOption (value.map fun bytes => hexLiteral bytes.toList)
  .object
    [("address", bytes deployment.address),
     ("tx_hash", bytes deployment.txHash),
     ("created_at", .ofOption (deployment.createdAt.map fun block =>
       .ofList ('0' :: 'x' :: hexText block.toNat))),
     ("abi", deployment.abi)]

end Deployment

/-- What the bindings say about a deployment, as a JSON value. -/
def DeploymentInfo.toJson (info : DeploymentInfo) : Json :=
  .object
    [("address", .string info.address),
     ("tx_hash", .ofOption info.txHash),
     ("created_at", .ofOption info.createdAt)]

end ContractBindings
