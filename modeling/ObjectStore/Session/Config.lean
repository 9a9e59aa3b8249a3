import ObjectStore.Dml.Settings
import ObjectStore.Error
import ObjectStore.Json.Reader

/-!
# Configuration

The configuration is a JSON text. Everything that it leaves out has a default, and members that it does not know are ignored.
-/

namespace ObjectStore

/-- Where the tables are kept, and how long to wait for them when they are in use. -/
structure StoreConfig where
  path : String
  busyTimeout : UInt64
  deriving DecidableEq, Inhabited

structure Config where
  store : StoreConfig
  settings : Dml.Settings
  deriving DecidableEq, Inhabited

namespace StoreConfig

/-- The path of a store that is kept in memory. -/
def memoryPath : String := ":memory:"

def standard : StoreConfig := ⟨"./database.sqlite3", 5000⟩

def decode (json : Json) : Option StoreConfig :=
  match json.slots ["path", "busy_timeout_ms"] with
  | some [path, busyTimeout] => do
    some ⟨
      ← path.withDefault standard.path Json.asString,
      ← busyTimeout.withDefault standard.busyTimeout Json.asUInt64⟩
  | _ => failure

end StoreConfig

namespace Config

def standard : Config := ⟨.standard, ⟨.perRecord, none⟩⟩

/-- The standard configuration, with the tables in memory. -/
def inMemory : Config := { standard with store := { StoreConfig.standard with path := StoreConfig.memoryPath } }

/-- A time that may be null. -/
def decodeTimeout : Json → Option (Option UInt64)
  | .null => some none
  | json => json.asUInt64.map some

def decode (json : Json) : Option Config :=
  match json.slots ["store", "query_timeout_ms", "dml_mode"] with
  | some [store, timeout, mode] => do
    some ⟨
      ← store.withDefault StoreConfig.standard StoreConfig.decode,
      ⟨← mode.withDefault .perRecord Dml.Mode.decode, ← timeout.withDefault none decodeTimeout⟩⟩
  | _ => failure

def read? (text : String) : Option Config :=
  (Json.read? text).bind decode

end Config

end ObjectStore
