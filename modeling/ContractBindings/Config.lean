import ContractBindings.Error
import ContractBindings.Platform

/-!
# Configurations

A configuration names the language and the platform of the bindings, and holds
customizations by contract. Those under the name `default` apply to every contract, and a
contract's own ones are laid over them, key by key.
-/

namespace ContractBindings

/-- **Customizations** of a contract. -/
structure Customs where
  /-- Display names of structs, by canonical signature of the tuple. -/
  structs : TextMap String
  /-- The methods that are bound; if none is listed, every method is. -/
  methods : TextMap Bool
  /-- Further imports, by alias. -/
  imports : TextMap String

/-- Whether a name is an identifier: a letter or underscore followed by letters, digits and
underscores. -/
def isIdentifier (name : String) : Bool :=
  match name.toList with
  | [] => false
  | c :: rest => (c.isAlpha || c == '_') && rest.all fun c => c.isAlphanum || c == '_'

/-- Whether a text stands between parentheses, as a tuple signature does. -/
def isParenthesized (text : String) : Bool :=
  text.toList.head? == some '(' && text.toList.getLast? == some ')'

namespace Customs

/-- No customization. -/
def empty : Customs := ⟨.empty, .empty, .empty⟩

instance : Inhabited Customs := ⟨empty⟩

/-- Whether a method is bound. -/
def includesMethod (customs : Customs) (name : String) : Bool :=
  customs.methods.isEmpty || (customs.methods.get? name).getD false

/-- The customizations `upper` laid over `lower`. -/
def merge (lower upper : Customs) : Customs where
  structs := lower.structs.union upper.structs
  methods := lower.methods.union upper.methods
  imports := lower.imports.union upper.imports

/-- The fault in the display name that `signature` is given. -/
def structFault? (contract signature name : String) : Option ConfigFault :=
  if !isParenthesized signature then some (.tupleSignature contract signature)
  else if !isIdentifier name then some (.structName contract name)
  else none

/-- The fault in the import of `path` under the alias `key`. -/
def importFault? (contract key path : String) : Option ConfigFault :=
  if key.isEmpty || path.isEmpty then some (.importEntry contract key) else none

/-- The first fault in the customizations of a contract: structs come before imports, and
each in ascending order of the keys. -/
def fault? (customs : Customs) (contract : String) : Option ConfigFault :=
  (customs.structs.entries.findSome? fun (signature, name) =>
      structFault? contract signature name) <|>
    (customs.imports.entries.findSome? fun (key, path) => importFault? contract key path)

/-- Makes sure that the customizations of a contract have no fault. -/
def validate (customs : Customs) (contract : String) : Except ConfigFault Unit :=
  match customs.fault? contract with
  | some fault => .error fault
  | none => .ok ()

end Customs

/-- **Configuration** of a binding run. -/
structure BindConfig where
  /-- The language of the bindings. -/
  language : Language
  /-- The platform of the contracts. -/
  platform : Platform
  /-- The customizations, by contract. -/
  customs : TextMap Customs

namespace BindConfig

/-- The name whose customizations apply to every contract. -/
def defaultName : String := "default"

/-- The first fault in a configuration, in ascending order of the contracts. -/
def fault? (config : BindConfig) : Option ConfigFault :=
  config.customs.entries.findSome? fun (contract, customs) =>
    if contract.isEmpty then some .emptyContractName else customs.fault? contract

/-- Makes sure that a configuration has no fault. -/
def validate (config : BindConfig) : Except BindError Unit :=
  match config.fault? with
  | some fault => .error (.config fault)
  | none => .ok ()

/-- The customizations in effect for a contract: its own ones over those for every
contract. -/
def customsFor (config : BindConfig) (contract : String) : Customs :=
  let shared := (config.customs.get? defaultName).getD .empty
  match config.customs.get? contract with
  | some own => shared.merge own
  | none => shared

end BindConfig

end ContractBindings
