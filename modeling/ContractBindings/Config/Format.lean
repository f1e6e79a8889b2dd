import ContractBindings.Config
import ContractBindings.Json.Record

/-!
# Reading and writing configurations

Every field of a configuration and of customizations may be left out; a configuration is for
`golang` on `ethereum` unless it says otherwise.
-/

namespace ContractBindings

namespace Customs

/-- The names of the fields, in order. -/
def fieldNames : List String := ["structs", "methods", "imports"]

/-- Reads customizations from a document. -/
def ofDocument? (document : Document) : Option Customs := do
  match ← document.fields? fieldNames with
  | [structs, methods, imports] =>
    let structs ← Document.fieldOr .empty (Document.map? Document.text?) structs
    let methods ← Document.fieldOr .empty (Document.map? Document.bool?) methods
    let imports ← Document.fieldOr .empty (Document.map? Document.text?) imports
    return ⟨structs, methods, imports⟩
  | _ => none

/-- Reads customizations from a JSON text. -/
def ofText (text : String) : Except BindError Customs :=
  match Document.ofText? text >>= ofDocument? with
  | some customs => .ok customs
  | none => .error .serialization

/-- Customizations as a JSON value. -/
def toJson (customs : Customs) : Json :=
  .object
    [("structs", .ofMap .string customs.structs),
     ("methods", .ofMap .bool customs.methods),
     ("imports", .ofMap .string customs.imports)]

end Customs

namespace BindConfig

/-- The names of the fields, in order. -/
def fieldNames : List String := ["language", "platform", "customs"]

/-- Reads a configuration from a document. -/
def ofDocument? (document : Document) : Option BindConfig := do
  match ← document.fields? fieldNames with
  | [language, platform, customs] =>
    let language ← Document.fieldOr .golang (Document.word? Language.ofTag?) language
    let platform ← Document.fieldOr .ethereum (Document.word? Platform.ofTag?) platform
    let customs ← Document.fieldOr .empty (Document.map? Customs.ofDocument?) customs
    return ⟨language, platform, customs⟩
  | _ => none

/-- Reads a configuration from a JSON text, faults and all. -/
def ofText (text : String) : Except BindError BindConfig :=
  match Document.ofText? text >>= ofDocument? with
  | some config => .ok config
  | none => .error .serialization

/-- Reads a configuration without a fault from a JSON text. -/
def ofValidText (text : String) : Except BindError BindConfig := do
  let config ← ofText text
  config.validate
  return config

/-- A configuration as a JSON value. -/
def toJson (config : BindConfig) : Json :=
  .object
    [("language", .string config.language.tag),
     ("platform", .string config.platform.tag),
     ("customs", .ofMap Customs.toJson config.customs)]

end BindConfig

end ContractBindings
