import ContractBindings.Abi.AbiType
import ContractBindings.Digest.Keccak
import ContractBindings.Text.Hex

/-!
# Contract ABIs

The functions, events and constructor that a contract declares. A function is known on chain
by its selector and an event by its topic; both are digests of the **canonical signature**,
the name followed by the signature of the tuple of parameter types.
-/

namespace ContractBindings

/-- **Parameter** of a function or event. -/
structure AbiParameter where
  /-- The name; empty when there is none. -/
  name : String
  /-- The type. -/
  type : AbiType
  /-- The type as the contract's source names it. -/
  internalType : Option String
  /-- Whether the value is a topic of the log entry. -/
  indexed : Bool

/-- A parameter as the field of a tuple. -/
def AbiParameter.field (parameter : AbiParameter) : String × AbiType :=
  (parameter.name, parameter.type)

/-- The tuple of the types of some parameters. -/
def parameterTuple (parameters : List AbiParameter) : AbiType :=
  .tuple (parameters.map AbiParameter.field)

/-- The canonical signature, for instance `transfer(address,uint256)`. -/
def canonicalSignature (name : String) (parameters : List AbiParameter) : String :=
  name ++ (parameterTuple parameters).signature

/-- **State mutability**: what a function may do to the chain's state. -/
inductive StateMutability where
  /-- Neither reads nor writes it. -/
  | pure
  /-- Reads it. -/
  | view
  /-- Writes it. -/
  | nonpayable
  /-- Writes it and takes a payment. -/
  | payable
  deriving DecidableEq, Repr, Inhabited

namespace StateMutability

/-- The word for a mutability. -/
def text : StateMutability → String
  | pure => "pure"
  | view => "view"
  | nonpayable => "nonpayable"
  | payable => "payable"

/-- The mutability for a word. -/
def ofText? (text : String) : Option StateMutability :=
  [pure, view, nonpayable, payable].find? (·.text == text)

/-- Words tell the mutabilities apart, and `ofText?` reads every one of them. -/
theorem ofText?_text (mutability : StateMutability) :
    ofText? mutability.text = some mutability := by
  cases mutability <;> decide

end StateMutability

/-- **Function** of a contract; its constructor has this form too. -/
structure AbiFunction where
  /-- The name. -/
  name : String
  /-- What the function takes. -/
  inputs : List AbiParameter
  /-- What the function gives. -/
  outputs : List AbiParameter
  /-- What the function may do to the state. -/
  mutability : StateMutability

namespace AbiFunction

/-- Whether a function leaves the state as it is. -/
def isConstant (f : AbiFunction) : Bool :=
  f.mutability == .pure || f.mutability == .view

/-- Whether a function takes a payment. -/
def isPayable (f : AbiFunction) : Bool := f.mutability == .payable

/-- The canonical signature of a function. -/
def signature (f : AbiFunction) : String := canonicalSignature f.name f.inputs

/-- The selector: the first four bytes of the signature's digest. -/
def selector (f : AbiFunction) : String := hexLiteral ((keccakOfText f.signature).take 4)

end AbiFunction

/-- **Event** of a contract. -/
structure AbiEvent where
  /-- The name. -/
  name : String
  /-- What is logged. -/
  inputs : List AbiParameter
  /-- Whether the log entry leaves out the event's topic. -/
  anonymous : Bool

namespace AbiEvent

/-- The canonical signature of an event. -/
def signature (e : AbiEvent) : String := canonicalSignature e.name e.inputs

/-- The topic: the signature's digest. -/
def topic (e : AbiEvent) : String := hexLiteral (keccakOfText e.signature)

end AbiEvent

/-- **Contract ABI**, functions and events in the order of their declaration. -/
structure ContractAbi where
  /-- The constructor, if one is declared. -/
  constructor : Option AbiFunction
  /-- The functions. -/
  functions : List AbiFunction
  /-- The events. -/
  events : List AbiEvent

namespace ContractAbi

/-- The functions that leave the state as it is. -/
def viewFunctions (abi : ContractAbi) : List AbiFunction := abi.functions.filter (·.isConstant)

/-- The functions that may change the state. -/
def transactionFunctions (abi : ContractAbi) : List AbiFunction :=
  abi.functions.filter (!·.isConstant)

end ContractAbi

end ContractBindings
