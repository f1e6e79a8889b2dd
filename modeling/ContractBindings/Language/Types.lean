import ContractBindings.Error
import ContractBindings.Language.Names

/-!
# Types of a target language

How a language writes elementary types, arrays and slices, and how it names a type inside an
identifier. The text of a type in the language is called its **bound type** throughout.
-/

namespace ContractBindings

namespace Language

/-- The integer widths that both languages have types for. -/
def nativeWidths : List Nat := [8, 16, 32, 64]

/-- The bound type of an account address. -/
def addressType : Language → String
  | golang => "common.Address"
  | java => "Address"

/-- The bound type that stands in for a value of which only the hash is known. -/
def hashType : Language → String
  | golang => "common.Hash"
  | java => "Hash"

/-- The bound type of an elementary type of legal width. -/
def elementaryName : Language → Elementary → String
  | golang, .uint bits => if bits ∈ nativeWidths then "uint" ++ toString bits else "*big.Int"
  | golang, .int bits => if bits ∈ nativeWidths then "int" ++ toString bits else "*big.Int"
  | golang, .fixedBytes size => "[" ++ toString size ++ "]byte"
  | golang, .bytes => "[]byte"
  | golang, .function => "[24]byte"
  | golang, .string => "string"
  | golang, .bool => "bool"
  | java, .uint _ => "BigInt"
  | java, .int 8 => "byte"
  | java, .int 16 => "short"
  | java, .int 32 => "int"
  | java, .int 64 => "long"
  | java, .int _ => "BigInt"
  | java, .fixedBytes _ => "byte[]"
  | java, .bytes => "byte[]"
  | java, .function => "byte[24]"
  | java, .string => "String"
  | java, .bool => "boolean"
  | language, .address => language.addressType

/-- The bound type of an elementary type, or the fault in its width. -/
def elementaryType (language : Language) (kind : Elementary) : Except BindError String :=
  match kind.checkWidth with
  | .ok kind => .ok (language.elementaryName kind)
  | .error fault => .error (.malformedType (.width fault))

/-- The bound type of a type that has to be elementary. -/
def basicType (language : Language) : AbiType → Except BindError String
  | .elementary kind => language.elementaryType kind
  | type => .error (.malformedType (.notElementary type.signature))

/-! ### Arrays and slices -/

/-- The collections that have a name of their own, by the bound type of their elements. -/
def namedCollections : List (String × String) :=
  [("boolean", "Bools"), ("String", "Strings"), ("Address", "Addresses"),
   ("byte[]", "Binaries"), ("BigInt", "BigInts")]

/-- The bound type of a collection, given that of its elements. -/
def collectionType (element : String) : String :=
  (namedCollections.lookup element).getD (element ++ "[]")

/-- The bound type of an array, given that of its elements. -/
def arrayType (language : Language) (element : String) (size : Nat) : String :=
  match language with
  | golang => "[" ++ toString size ++ "]" ++ element
  | java => collectionType element

/-- The bound type of a slice, given that of its elements. -/
def sliceType (language : Language) (element : String) : String :=
  match language with
  | golang => "[]" ++ element
  | java => collectionType element

/-! ### Names inside identifiers -/

/-- A text without the bracket groups at its start. `inside` says that a group is open; a
bracket that is never closed opens none. -/
def dropBracketGroups (inside : Bool) : List Char → List Char
  | [] => []
  | c :: rest =>
    if inside then dropBracketGroups (c != ']') rest
    else if c = '[' ∧ ']' ∈ rest then dropBracketGroups true rest
    else c :: rest

/-- The name of a type whose bound type may start with bracket groups: the words of the rest
in camel case, in the plural where there are such groups. -/
def bracketName (bound : String) : String :=
  let base := dropBracketGroups false bound.toList
  let name := joinWords (fun c => !c.isAlphanum) true base
  let ending :=
    if base = bound.toList then []
    else if name.getLast? = some 's' then ['e', 's']
    else ['s']
  .ofList (name ++ ending)

/-- The name of an integer type, in the singular or plural, if it has a native width. -/
def integerName? (word : String) (bits : Nat) (plural : Bool) : Option String :=
  if bits ∈ nativeWidths then
    some (word ++ toString bits ++ if plural then "s" else "")
  else
    none

/-- The name of a type whose integers keep their width although the bound type loses it. -/
def widthName (bound : String) (type : AbiType) : String :=
  if bound = "byte[]" then "Binary"
  else if bound = "boolean" then "Bool"
  else
    let plural :=
      match type with
      | .elementary (.uint _) => false
      | .elementary (.int _) => false
      | _ => true
    match type.innermost with
    | .elementary (.uint bits) => (integerName? "Uint" bits plural).getD bound
    | .elementary (.int bits) => (integerName? "Int" bits plural).getD bound
    | _ => bound

/-- The name of a type for use inside an identifier, given its bound type. -/
def namedType (language : Language) (bound : String) (type : AbiType) : String :=
  match language with
  | golang => bracketName bound
  | java => widthName bound type

end Language

end ContractBindings
