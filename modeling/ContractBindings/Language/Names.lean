import ContractBindings.Language
import ContractBindings.Naming.Camel
import ContractBindings.Naming.Fresh

/-!
# Identifiers of a target language

How a language spells the methods, events and record fields of a contract, and how names that
would clash are told apart.

* A record **field** keeps its own name where that is not empty and not used by an earlier
  field. Otherwise it is called after a number, counted from the field's own position
  (`Language.fieldNames`).
* A method or event has a **key**, from which its name in the language is made. The key is
  the entry's own name where the name made from it is free, and otherwise the own name with
  the least number behind it for which that is so (`Language.claimKeys`). So `foo` and `Foo`
  never both become `Foo`.
-/

namespace ContractBindings

namespace Language

/-- The spelling of an identifier. -/
def identifier : Language → String → String
  | golang => capitalize
  | java => decapitalize

/-- The name of a method or event with the given key. -/
def methodName (language : Language) (key : String) : String := language.identifier key

/-- The name of a record field. -/
def fieldName (language : Language) (raw : String) : String := language.identifier raw

/-- The word that comes before the number in a synthesized record name. -/
def structStem : Language → String
  | golang => "Struct"
  | java => "Class"

/-! ### Record fields -/

/-- The name that replaces an unusable field name. -/
def numberedField (language : Language) (j : Nat) : String :=
  language.fieldName ("field" ++ toString j)

/-- The name of the field that follows the fields named `used`. -/
def freshField (language : Language) (used : List String) (raw : String) : String :=
  let own := language.fieldName raw
  if own ≠ "" ∧ own ∉ used then own
  else
    let passes j := decide (language.numberedField j ∉ used)
    language.numberedField (leastFrom passes used.length used.length)

/-- The names of the fields that follow the fields named `used`. -/
def fieldNamesAfter (language : Language) (used : List String) : List String → List String
  | [] => []
  | raw :: rest =>
    let name := language.freshField used raw
    name :: language.fieldNamesAfter (used ++ [name]) rest

/-- The names of a record's fields. -/
def fieldNames (language : Language) (raws : List String) : List String :=
  language.fieldNamesAfter [] raws

/-! ### Keys -/

/-- Whether the name made from a key is none of the names taken so far. -/
def isFreeKey (language : Language) (taken : List String) (key : String) : Bool :=
  decide (language.methodName key ∉ taken)

/-- A name with a number behind it. -/
def numberedKey (name : String) (n : Nat) : String := name ++ toString n

/-- The key of an entry, where the names `taken` have been made from the keys before it. -/
def freshKey (language : Language) (taken : List String) (name : String) : String :=
  if language.isFreeKey taken name then name
  else
    let passes n := language.isFreeKey taken (numberedKey name n)
    numberedKey name (leastFrom passes 0 taken.length)

/-- The keys of some entries, where the names `taken` have been made from the keys before
them. -/
def claimKeysAfter (language : Language) (taken : List String) : List String → List String
  | [] => []
  | name :: rest =>
    let key := language.freshKey taken name
    key :: language.claimKeysAfter (taken ++ [language.methodName key]) rest

/-- The keys of the entries of one namespace, given their names. -/
def claimKeys (language : Language) (names : List String) : List String :=
  language.claimKeysAfter [] names

end Language

end ContractBindings
