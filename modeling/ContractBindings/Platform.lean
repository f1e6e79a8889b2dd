import ContractBindings.TextMap

/-!
# Chain platforms and imports

A platform decides which client library the bindings import. Its import table is a map from
aliases to paths; `mergeImports` lays several tables over each other, so that the last table
that has an alias decides its path.
-/

namespace ContractBindings

/-- **Platform** of a contract. -/
inductive Platform where
  /-- The Ethereum network. -/
  | ethereum
  /-- The Klaytn network. -/
  | klaytn
  deriving DecidableEq, Repr, Inhabited

namespace Platform

/-- The tag of a platform. -/
def tag : Platform → String
  | ethereum => "ethereum"
  | klaytn => "klaytn"

/-- The platform with the given tag, in exactly this case. -/
def ofTag? (tag : String) : Option Platform :=
  [ethereum, klaytn].find? (·.tag == tag)

/-- Tags tell the platforms apart, and `ofTag?` reads every one of them. -/
theorem ofTag?_tag (platform : Platform) : ofTag? platform.tag = some platform := by
  cases platform <;> decide

/-- The paths that every binding for the platform imports, by alias. -/
def imports : Platform → TextMap String
  | ethereum => .ofList
    [("platform", "github.com/ethereum/go-ethereum"),
     ("abi", "github.com/ethereum/go-ethereum/accounts/abi"),
     ("bind", "github.com/ethereum/go-ethereum/accounts/abi/bind"),
     ("common", "github.com/ethereum/go-ethereum/common"),
     ("chainTypes", "github.com/ethereum/go-ethereum/core/types"),
     ("event", "github.com/ethereum/go-ethereum/event")]
  | klaytn => .ofList
    [("platform", "github.com/klaytn/klaytn"),
     ("abi", "github.com/klaytn/klaytn/accounts/abi"),
     ("bind", "github.com/klaytn/klaytn/accounts/abi/bind"),
     ("common", "github.com/klaytn/klaytn/common"),
     ("chainTypes", "github.com/klaytn/klaytn/blockchain/types"),
     ("event", "github.com/klaytn/klaytn/event"),
     ("types", "github.com/airbloc/airbloc-go/shared/types"),
     ("blockchain", "github.com/airbloc/airbloc-go/shared/blockchain")]

end Platform

/-- Import tables laid over each other; of an alias in several tables the last path wins. -/
def mergeImports (tables : List (TextMap String)) : TextMap String :=
  tables.foldl .union .empty

end ContractBindings
