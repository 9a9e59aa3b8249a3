import ObjectStore.Number.Double

/-!
# Cells

A cell is a value as the store keeps and returns it: one of five storage kinds.
-/

namespace ObjectStore

inductive Cell where
  | null
  | integer (value : Int64)
  | real (value : Double)
  | text (value : String)
  | blob (bytes : List UInt8)
  deriving DecidableEq, Inhabited

/-- The cells of a result, one for each selected column. -/
abbrev Row := List Cell

namespace Cell

def kind : Cell → String
  | null => "NULL"
  | integer _ => "INTEGER"
  | real _ => "REAL"
  | text _ => "TEXT"
  | blob _ => "BLOB"

end Cell

end ObjectStore
