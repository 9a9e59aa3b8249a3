import ObjectStore.Class.FieldType
import ObjectStore.Error
import ObjectStore.Store.Cell
import ObjectStore.Value.Basic

/-!
# From cells to values

The declared kind of a field decides what a cell becomes; without one the storage kind does. An absent value stays absent. Bytes count as the text that they encode. Numbers and truth values are also read from texts, and a text field also takes the text of a number; whatever would lose something is refused, naming the field.
-/

namespace ObjectStore.Cell

/-- A cell with its bytes decoded, unless they encode no text. -/
def decoded : Cell → Option Cell
  | blob bytes => (String.fromUTF8? ⟨bytes.toArray⟩).map text
  | cell => some cell

/-- The integer that a number stands for, short of the least one. -/
def wholeNumber? (d : Double) : Option Int64 :=
  d.toInt?.bind fun n => if -0x8000000000000000 < n then Number.int64? n else none

/-- The truth value that a text names. -/
def truth? (s : String) : Option Bool :=
  match String.ofList ((Text.trim s.toList).map Char.toLower) with
  | "true" => some true
  | "1" => some true
  | "false" => some false
  | "0" => some false
  | _ => none

/-- The value of a cell without a declared kind. -/
def undeclared : Cell → Value
  | integer n => .integer n
  | real d => .double d
  | text s => .string s
  | null => .null
  | blob _ => .null

/-- The value of a cell that holds no bytes, for a field of the given kind; without a value, the description of what was found. -/
def convertAs : FieldType → Cell → Except String Value
  | _, null => .ok .null
  | .integer, integer n => .ok (.integer n)
  | .integer, real d => orElse (real d).kind ((wholeNumber? d).map .integer)
  | .integer, text s => orElse (described s) ((Number.readInt64 (Text.trim s.toList)).map .integer)
  | .double, integer n => .ok (.double (Double.ofInt n.toInt))
  | .double, real d => .ok (.double d)
  | .double, text s => orElse (described s) ((Number.readDouble (Text.trim s.toList)).map .double)
  | .boolean, integer n => .ok (.boolean (n != 0))
  | .boolean, text s => orElse (described s) ((truth? s).map .boolean)
  | .string, cell => asText cell
  | .id, cell => asText cell
  | .reference _, cell => asText cell
  | _, cell => .error cell.kind
where
  orElse (found : String) : Option Value → Except String Value
    | some value => .ok value
    | none => .error found
  described (s : String) : String := "TEXT '" ++ s ++ "'"
  asText : Cell → Except String Value
    | text s => .ok (.string s)
    | integer n => .ok (.string (String.ofList (Number.writeInt n.toInt)))
    | real d => .ok (.string d.display)
    | cell => .error cell.kind

/-- The value of a cell for a field that may be declared. -/
def convert (cell : Cell) (declared : Option FieldType) (field : String) : Except ConversionError Value :=
  match cell.decoded, declared with
  | none, _ => .error ⟨field, (declared.map FieldType.name).getD "String", "non-UTF-8 BLOB"⟩
  | some cell, none => .ok cell.undeclared
  | some cell, some fieldType =>
    match convertAs fieldType cell with
    | .ok value => .ok value
    | .error found => .error ⟨field, fieldType.name, found⟩

end ObjectStore.Cell
