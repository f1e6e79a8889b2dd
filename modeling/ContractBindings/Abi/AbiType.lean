/-!
# ABI types

`AbiType` is the type of a value that a contract takes or gives: an elementary type, a
fixed-length array, a slice (an array of any length), or a tuple of named fields.

* `AbiType.signature` — the canonical signature, for instance `(address,uint8)[2]`. Field
  names take no part in it, so it identifies the **shape** of a type;
* `AbiType.innermost` — the type below all array and slice layers;
* `Elementary.widthFault?` — the widths that a contract can declare. A type may carry any
  width; the check is made where a type is read and where it is mapped.
-/

namespace ContractBindings

/-- **Elementary type** of an ABI. -/
inductive Elementary where
  /-- An account address of twenty bytes. -/
  | address
  /-- A truth value. -/
  | bool
  /-- A text of any length. -/
  | string
  /-- A byte sequence of any length. -/
  | bytes
  /-- An address followed by a four-byte selector. -/
  | function
  /-- An unsigned integer of the given number of bits. -/
  | uint (bits : Nat)
  /-- A signed integer of the given number of bits. -/
  | int (bits : Nat)
  /-- A byte sequence of the given size. -/
  | fixedBytes (size : Nat)
  deriving DecidableEq, Repr, Inhabited

/-- **ABI type**. -/
inductive AbiType where
  /-- An elementary type. -/
  | elementary (kind : Elementary)
  /-- An array of a fixed length. -/
  | array (element : AbiType) (size : Nat)
  /-- An array of any length. -/
  | slice (element : AbiType)
  /-- A tuple of named fields; a name may be empty. -/
  | tuple (fields : List (String × AbiType))
  deriving Repr, Inhabited

/-- The names and types of a tuple's fields. -/
abbrev TupleFields := List (String × AbiType)

/-! ### Widths -/

/-- A fault in a width or size. -/
inductive WidthFault where
  /-- An integer width that is no multiple of eight from 8 to 256. -/
  | integerBits (bits : Nat)
  /-- A byte sequence whose size is not from 1 to 32. -/
  | fixedBytes (size : Nat)
  deriving DecidableEq, Repr

/-- A legal integer width, or the fault in it. -/
def checkIntegerBits (bits : Nat) : Except WidthFault Nat :=
  if bits = 0 ∨ 256 < bits ∨ bits % 8 ≠ 0 then .error (.integerBits bits) else .ok bits

/-- A legal size of a byte sequence, or the fault in it. -/
def checkFixedBytes (size : Nat) : Except WidthFault Nat :=
  if size = 0 ∨ 32 < size then .error (.fixedBytes size) else .ok size

/-- An elementary type of legal width, or the fault in its width. -/
def Elementary.checkWidth : Elementary → Except WidthFault Elementary
  | uint bits => uint <$> checkIntegerBits bits
  | int bits => int <$> checkIntegerBits bits
  | fixedBytes size => fixedBytes <$> checkFixedBytes size
  | kind => .ok kind

/-! ### Signatures -/

/-- The characters of an elementary type's signature. -/
def Elementary.signatureChars : Elementary → List Char
  | address => "address".toList
  | bool => "bool".toList
  | string => "string".toList
  | bytes => "bytes".toList
  | function => "function".toList
  | uint bits => "uint".toList ++ Nat.toDigits 10 bits
  | int bits => "int".toList ++ Nat.toDigits 10 bits
  | fixedBytes size => "bytes".toList ++ Nat.toDigits 10 size

namespace AbiType

mutual

/-- The characters of a type's signature. -/
def signatureChars : AbiType → List Char
  | elementary kind => kind.signatureChars
  | array element size => signatureChars element ++ '[' :: Nat.toDigits 10 size ++ [']']
  | slice element => signatureChars element ++ ['[', ']']
  | tuple fields => '(' :: fieldSignatureChars fields ++ [')']

/-- The signatures of a tuple's fields, with commas between them. -/
def fieldSignatureChars : List (String × AbiType) → List Char
  | [] => []
  | [(_, type)] => signatureChars type
  | (_, type) :: next :: rest =>
    signatureChars type ++ ',' :: fieldSignatureChars (next :: rest)

end

/-- The **canonical signature** of a type. -/
def signature (type : AbiType) : String := .ofList type.signatureChars

/-! ### Views -/

/-- The type below all array and slice layers. -/
def innermost : AbiType → AbiType
  | array element _ => element.innermost
  | slice element => element.innermost
  | type => type

/-- Whether a type is a tuple. -/
def isTuple : AbiType → Bool
  | tuple _ => true
  | _ => false

/-- Whether an indexed value of this type is found in the log as a hash only: texts and byte
sequences of any length. -/
def isHashedTopic : AbiType → Bool
  | elementary .string => true
  | elementary .bytes => true
  | _ => false

end AbiType

end ContractBindings
