import ObjectStore.Sql.Statement
import ObjectStore.Tables.Affinity

/-!
# Evaluating expressions on a row

An expression is evaluated on the rows that stand side by side in a join, each under the name of its table. Truth is 1, falsity 0 and absence neither, and the connectives are those of three-valued logic: a conjunction is false if any part is, else absent if any part is, else true.
-/

namespace ObjectStore.Tables

structure Column where
  name : String
  affinity : Affinity
  isKey : Bool
  deriving DecidableEq, Inhabited

/-- A row under the name of its table. -/
structure Bound where
  qualifier : String
  columns : List Column
  cells : Row
  deriving Inhabited

/-- The rows that an expression can refer to. -/
abbrev Scope := List Bound

/-- The cell in the column with a name, and what the column prefers. -/
def cellIn : List Column → Row → String → Option (Affinity × Cell)
  | column :: columns, cell :: cells, name =>
    if Text.sameName column.name name then some (column.affinity, cell) else cellIn columns cells name
  | _, _, _ => none

namespace Scope

/-- The cells that a reference to a column may mean. -/
def find (scope : Scope) (qualifier : Option String) (name : String) : List (Affinity × Cell) :=
  scope.filterMap fun bound =>
    if qualifier.all (Text.sameName bound.qualifier) then cellIn bound.columns bound.cells name else none

def cell (scope : Scope) (qualifier : Option String) (name : String) : Affinity × Cell :=
  ((scope.find qualifier name).head?).getD (.none, .null)

end Scope

/-- Truth, falsity or neither. -/
abbrev Truth := Option Bool

def Truth.toCell : Truth → Cell
  | some true => .integer 1
  | some false => .integer 0
  | none => .null

/-- The truth of a cell: a number other than zero is true. -/
def truthOf (cell : Cell) : Truth :=
  match preferNumber cell with
  | .null => none
  | .integer n => some (n != 0)
  | .real d => some !d.isZero
  | _ => some false

def Truth.not : Truth → Truth := Option.map (!·)

def Truth.and : Truth → Truth → Truth
  | some false, _ => some false
  | _, some false => some false
  | some true, t => t
  | t, some true => t
  | none, none => none

def Truth.or : Truth → Truth → Truth
  | some true, _ => some true
  | _, some true => some true
  | some false, t => t
  | t, some false => t
  | none, none => none

/-- The end parts of a list, itself first. -/
def tails {α : Type} : List α → List (List α)
  | [] => [[]]
  | a :: rest => (a :: rest) :: tails rest

/-- Whether characters match a pattern, in which `%` stands for any characters and `_` for one, and the case of ASCII letters does not count. -/
def likeChars : List Char → List Char → Bool
  | [], cs => cs.isEmpty
  | p :: pattern, cs =>
    if p == '%' then (tails cs).any (likeChars pattern)
    else
      match cs with
      | [] => false
      | c :: cs => (p == '_' || p.toLower == c.toLower) && likeChars pattern cs

/-- The text of a cell up to the first NUL, if it has one. -/
def likeText : Cell → Option (List Char)
  | .null => none
  | cell =>
    match preferText cell with
    | .text s => some (s.toList.takeWhile (· != '\x00'))
    | _ => some []

def like (subject pattern : Cell) : Truth :=
  match likeText subject, likeText pattern with
  | some cs, some p => some (likeChars p cs)
  | _, _ => none

def operatorHolds : Sql.Operator → Ordering → Bool
  | .equal, o => o == .eq
  | .notEqual, o => o != .eq
  | .less, o => o == .lt
  | .atMost, o => o != .gt
  | .greater, o => o == .gt
  | .atLeast, o => o != .lt
  | .like, _ => false

/-- The comparison of two cells, absent if one of them is. -/
def compareCells (operator : Sql.Operator) (left right : Affinity × Cell) : Truth :=
  match operator with
  | .like => like left.2 right.2
  | operator =>
    match left.1.align right.1 left.2 right.2 with
    | (.null, _) => none
    | (_, .null) => none
    | (l, r) => some (operatorHolds operator (cellOrder l r))

/-- Whether a cell is in a list of cells. -/
def isIn (subject : Affinity × Cell) : List Cell → Truth
  | [] => some false
  | item :: rest => Truth.or (compareCells .equal subject (.none, item)) (isIn subject rest)

/-- Two cells as one text. -/
def joinCells (left right : Cell) : Cell :=
  match preferText left, preferText right with
  | .text a, .text b => .text (a ++ b)
  | _, _ => .null

mutual

/-- The cell that an expression comes to, and the affinity that it has if it is a column. -/
def eval (scope : Scope) : Sql.Expr → Affinity × Cell
  | .null => (.none, .null)
  | .integer n => (.none, .integer n)
  | .real d => (.none, .real d)
  | .text s => (.none, .text s)
  | .truth b => (.none, Truth.toCell (some b))
  | .column qualifier name => scope.cell qualifier name
  | .character code => (.none, .text (String.singleton (Char.ofNat code)))
  | .concat left right => (.none, joinCells (eval scope left).2 (eval scope right).2)
  | .compare operator left right => (.none, (compareCells operator (eval scope left) (eval scope right)).toCell)
  | .inList negated subject items =>
    let found := isIn (eval scope subject) (evalAll scope items)
    (.none, (if negated then found.not else found).toCell)
  | .isNull negated subject => (.none, Truth.toCell (some (((eval scope subject).2 == .null) != negated)))
  | .not inner => (.none, (truthOf (eval scope inner).2).not.toCell)
  | .all parts => (.none, ((evalAll scope parts).foldr (fun cell t => (truthOf cell).and t) (some true)).toCell)
  | .any parts => (.none, ((evalAll scope parts).foldr (fun cell t => (truthOf cell).or t) (some false)).toCell)
  | .group inner => eval scope inner
  | .count => (.none, .null)

def evalAll (scope : Scope) : List Sql.Expr → List Cell
  | [] => []
  | expr :: rest => (eval scope expr).2 :: evalAll scope rest

end

/-- A row passes a condition only if it is true. -/
def passes (scope : Scope) : Option Sql.Expr → Bool
  | none => true
  | some filter => truthOf (eval scope filter).2 == some true

end ObjectStore.Tables
