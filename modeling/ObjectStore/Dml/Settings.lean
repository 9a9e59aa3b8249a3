import ObjectStore.Dml.Statement

/-!
# How changes are applied

A batch of records is applied record by record or in one transaction. Calls to the store that come without a deadline get one from the settings.
-/

namespace ObjectStore.Dml

inductive Mode where
  /-- Every record stands alone. -/
  | perRecord
  /-- One transaction, which the first failure undoes. -/
  | atomic
  deriving DecidableEq, Inhabited

namespace Mode

def name : Mode → String
  | perRecord => "per_record"
  | atomic => "atomic"

def names : List (String × Mode) := [("per_record", perRecord), ("atomic", atomic)]

def encode (mode : Mode) : Json := .str mode.name

def decode : Json → Option Mode := Json.constant names

end Mode

/-- The mode of batches, and the time in milliseconds that a call to the store may take. -/
structure Settings where
  mode : Mode
  timeout : Option UInt64
  deriving DecidableEq, Inhabited

namespace Settings

/-- The time that a new deadline grants. -/
def duration (settings : Settings) : Option Nat :=
  settings.timeout.map UInt64.toNat

end Settings

end ObjectStore.Dml
