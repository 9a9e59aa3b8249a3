import ObjectStore.Number.Written
import ObjectStore.Text.Basic

/-!
# Expressions of statements and their text

Expressions are written with single blanks around operators and with no more parentheses than they contain, so parentheses are expressions of their own. A string literal has no escapes but the doubled quote; a text with control characters is therefore written as literals joined with the characters at those places.
-/

namespace ObjectStore.Sql

inductive Operator where
  | equal
  | notEqual
  | less
  | atMost
  | greater
  | atLeast
  | like
  deriving DecidableEq

def Operator.text : Operator → String
  | equal => "="
  | notEqual => "!="
  | less => "<"
  | atMost => "<="
  | greater => ">"
  | atLeast => ">="
  | like => "LIKE"

inductive Expr where
  | null
  | integer (value : Int64)
  | real (value : Double)
  | text (value : String)
  | truth (value : Bool)
  | column (qualifier : Option String) (name : String)
  /-- The character with the given code point, as a text. -/
  | character (code : Nat)
  | concat (left right : Expr)
  | compare (operator : Operator) (left right : Expr)
  | inList (negated : Bool) (subject : Expr) (items : List Expr)
  | isNull (negated : Bool) (subject : Expr)
  | not (inner : Expr)
  | all (parts : List Expr)
  | any (parts : List Expr)
  | group (inner : Expr)
  /-- The number of rows. -/
  | count
  deriving Inhabited

/-- A string literal, each quote in it written twice. -/
def quotedText (s : String) : String :=
  "'" ++ String.ofList (s.toList.flatMap fun c => if c == '\'' then [c, c] else [c]) ++ "'"

/-- A column as it is referred to, after its table if that is given. -/
def columnText : Option String → String → String
  | some qualifier, name => qualifier ++ "." ++ name
  | none, name => name

namespace Expr

mutual

def render : Expr → String
  | null => "NULL"
  | integer value => String.ofList (Number.writeInt value.toInt)
  | real value => value.literal
  | text value => quotedText value
  | truth true => "TRUE"
  | truth false => "FALSE"
  | column qualifier name => columnText qualifier name
  | character code => "char(" ++ String.ofList (Nat.toDigits 10 code) ++ ")"
  | concat left right => left.render ++ " || " ++ right.render
  | compare operator left right => left.render ++ " " ++ operator.text ++ " " ++ right.render
  | inList negated subject items =>
    subject.render ++ (if negated then " NOT IN (" else " IN (") ++ ", ".intercalate (renderAll items) ++ ")"
  | isNull negated subject => subject.render ++ (if negated then " IS NOT NULL" else " IS NULL")
  | not inner => "NOT " ++ inner.render
  | all parts => " AND ".intercalate (renderAll parts)
  | any parts => " OR ".intercalate (renderAll parts)
  | group inner => "(" ++ inner.render ++ ")"
  | count => "COUNT(*)"

def renderAll : List Expr → List String
  | [] => []
  | expr :: rest => expr.render :: renderAll rest

end

/-- The characters before the first control, and each control with the characters after it. -/
def pieces : List Char → List Char × List (Char × List Char)
  | [] => ([], [])
  | c :: rest =>
    let (first, more) := pieces rest
    if Text.isControl c then ([], (c, first) :: more) else (c :: first, more)

/-- An expression for any text. -/
def ofText (s : String) : Expr :=
  let (first, more) := pieces s.toList
  more.foldl (fun e (c, piece) => concat (concat e (character c.toNat)) (text (String.ofList piece)))
    (text (String.ofList first))

end Expr

end ObjectStore.Sql
