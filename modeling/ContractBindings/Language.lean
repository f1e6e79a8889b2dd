/-!
# Target languages

The languages in which bindings can be written, with the tag that names each one in a
configuration and in messages.
-/

namespace ContractBindings

/-- **Language** of the generated bindings. -/
inductive Language where
  /-- Capitalized identifiers, records `StructN`. -/
  | golang
  /-- Identifiers with a small letter in front, no records. -/
  | java
  deriving DecidableEq, Repr, Inhabited

namespace Language

/-- The tag of a language. -/
def tag : Language → String
  | golang => "golang"
  | java => "java"

/-- The language with the given tag, in exactly this case. -/
def ofTag? (tag : String) : Option Language :=
  [golang, java].find? (·.tag == tag)

/-- Tags tell the languages apart, and `ofTag?` reads every one of them. -/
theorem ofTag?_tag (language : Language) : ofTag? language.tag = some language := by
  cases language <;> decide

/-- Whether the bindings of a language can have records, which tuples become. -/
def hasRecords : Language → Bool
  | golang => true
  | java => false

end Language

end ContractBindings
