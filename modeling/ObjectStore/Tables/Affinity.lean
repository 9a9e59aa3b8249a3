import ObjectStore.Number.Written
import ObjectStore.Store.Cell
import ObjectStore.Text.Basic

/-!
# Affinity of columns

A column prefers a storage kind, which its type name decides. Cells are turned into that kind when they are stored, as far as nothing is lost, and when they are compared with the column. Cells of different kinds are ordered by kind: absent, numbers, texts, bytes.
-/

namespace ObjectStore.Tables

inductive Affinity where
  | text
  | integer
  | real
  | numeric
  /-- Cells stay as they are. -/
  | none
  deriving DecidableEq, Inhabited

namespace Affinity

/-- Whether one name contains another, both in upper case. -/
def mentions (typeName part : String) : Bool :=
  let part := part.toList
  let rec go : List Char → Bool
    | [] => part.isEmpty
    | c :: rest => part.isPrefixOf (c :: rest) || go rest
  go typeName.toList

def ofTypeName (typeName : String) : Affinity :=
  let t := Text.upperAscii typeName
  if mentions t "INT" then integer
  else if mentions t "CHAR" || mentions t "CLOB" || mentions t "TEXT" then text
  else if mentions t "BLOB" || t == "" then none
  else if mentions t "REAL" || mentions t "FLOA" || mentions t "DOUB" then real
  else numeric

def isNumeric : Affinity → Bool
  | integer => true
  | real => true
  | numeric => true
  | _ => false

end Affinity

/-- Blanks around a number in a text. -/
def isBlank (c : Char) : Bool :=
  c == ' ' || (0x9 ≤ c.toNat && c.toNat ≤ 0xD)

/-- The number that a text is, with blanks around it. -/
def numberIn? (s : String) : Option Cell :=
  let cs := ((s.toList.dropWhile isBlank).reverse.dropWhile isBlank).reverse
  match Number.readInt64 cs with
  | some n => some (.integer n)
  | none =>
    let (negative, rest) := Number.readSign cs
    (Number.readDecimal negative rest).map .real

/-- A number that is an integer strictly between the ends of the 64-bit range becomes one. -/
def preferInteger : Cell → Cell
  | .real d =>
    match d.toInt? with
    | some n => if -0x8000000000000000 < n && n < 0x7fffffffffffffff then .integer (Int64.ofInt n) else .real d
    | none => .real d
  | cell => cell

/-- A text that is a number becomes that number. -/
def preferNumber : Cell → Cell
  | .text s => (numberIn? s).getD (.text s)
  | cell => cell

/-- A number becomes its text. -/
def preferText : Cell → Cell
  | .integer n => .text (String.ofList (Number.writeInt n.toInt))
  | .real d => .text d.stored
  | cell => cell

/-- An integer becomes a binary number, and zero loses its sign. -/
def preferReal : Cell → Cell
  | .integer n => .real (Double.ofInt n.toInt)
  | .real d => .real (if d.isZero then Double.zero false else d)
  | cell => cell

/-- The cell as a column stores it. -/
def Affinity.store : Affinity → Cell → Cell
  | text, cell => preferText cell
  | integer, cell => preferInteger (preferNumber cell)
  | numeric, cell => preferInteger (preferNumber cell)
  | real, cell => preferReal (preferNumber cell)
  | none, cell => cell

/-- Both sides of a comparison, each turned into what the other side asks for. -/
def Affinity.align (a b : Affinity) (left right : Cell) : Cell × Cell :=
  if a.isNumeric && !b.isNumeric then (left, preferNumber right)
  else if b.isNumeric && !a.isNumeric then (preferNumber left, right)
  else if a == text && b == none then (left, preferText right)
  else if b == text && a == none then (preferText left, right)
  else (left, right)

/-- Order of texts by their characters. -/
def textOrder (a b : String) : Ordering :=
  if a < b then .lt else if a = b then .eq else .gt

def bytesOrder : List UInt8 → List UInt8 → Ordering
  | [], [] => .eq
  | [], _ :: _ => .lt
  | _ :: _, [] => .gt
  | a :: as, b :: bs => if a < b then .lt else if b < a then .gt else bytesOrder as bs

/-- The place of a cell's kind among the kinds. -/
def kindRank : Cell → Nat
  | .null => 0
  | .integer _ => 1
  | .real _ => 1
  | .text _ => 2
  | .blob _ => 3

/-- Order of cells. -/
def cellOrder : Cell → Cell → Ordering
  | .integer a, .integer b => compare a.toInt b.toInt
  | .integer a, .real b => Double.orderInt a.toInt b
  | .real a, .integer b => (Double.orderInt b.toInt a).swap
  | .real a, .real b => Double.order a b
  | .text a, .text b => textOrder a b
  | .blob a, .blob b => bytesOrder a b
  | a, b => compare (kindRank a) (kindRank b)

end ObjectStore.Tables
