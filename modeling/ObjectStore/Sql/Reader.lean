import ObjectStore.Sql.Statement
import ObjectStore.Sql.Token

/-!
# Reading statements

Joining texts binds tighter than comparing, comparing tighter than `NOT`, that tighter than `AND`, and that tighter than `OR`. A word is read as a name wherever a name is due. In an expression the words with a meaning of their own are names too when a point or a comparison follows. The recursion over expressions is bounded by the number of tokens.
-/

namespace ObjectStore.Sql

abbrev Tokens := List Token

namespace Expr

/-- A comparison symbol. -/
def operator? : Token → Option Operator
  | .symbol "=" => some .equal
  | .symbol "==" => some .equal
  | .symbol "!=" => some .notEqual
  | .symbol "<>" => some .notEqual
  | .symbol "<" => some .less
  | .symbol "<=" => some .atMost
  | .symbol ">" => some .greater
  | .symbol ">=" => some .atLeast
  | _ => none

/-- A number literal with its sign: an integer if it is digits that fit 64 bits. -/
def number? (negative : Bool) (text : String) : Option Expr :=
  let cs := text.toList
  match Number.readNat cs with
  | some n =>
    match Number.int64? (if negative then -(n : Int) else n) with
    | some value => some (integer value)
    | none => some (real (Double.ofFraction negative n 1))
  | none => (Number.readDecimal negative cs).map real

/-- Whether the next token makes the word before it a name. -/
def afterName : Tokens → Bool
  | token :: _ => (operator? token).isSome || token == .symbol "."
  | [] => false

/-- An expression that starts with a word. -/
def ofWord (word : String) : Tokens → Option (Expr × Tokens)
  | .symbol "." :: .word name :: rest => some (column (some word) name, rest)
  | .symbol "(" :: .symbol "*" :: .symbol ")" :: rest =>
    if Text.sameName word "COUNT" then some (count, rest) else none
  | .symbol "(" :: .number code :: .symbol ")" :: rest =>
    if Text.sameName word "CHAR" then (Number.readNat code.toList).map fun n => (character n, rest) else none
  | .symbol "(" :: _ => none
  | rest =>
    if afterName rest then some (column none word, rest)
    else if Text.sameName word "NULL" then some (null, rest)
    else if Text.sameName word "TRUE" then some (truth true, rest)
    else if Text.sameName word "FALSE" then some (truth false, rest)
    else some (column none word, rest)

mutual

def readAny : Nat → Tokens → Option (Expr × Tokens)
  | 0, _ => none
  | fuel + 1, tokens => do
    let (first, tokens) ← readAll fuel tokens
    let (rest, tokens) ← readMore "OR" fuel tokens
    some (if rest.isEmpty then first else any (first :: rest), tokens)

def readAll : Nat → Tokens → Option (Expr × Tokens)
  | 0, _ => none
  | fuel + 1, tokens => do
    let (first, tokens) ← readNot fuel tokens
    let (rest, tokens) ← readMore "AND" fuel tokens
    some (if rest.isEmpty then first else all (first :: rest), tokens)

/-- The expressions that follow, each after the given keyword. -/
def readMore (keyword : String) : Nat → Tokens → Option (List Expr × Tokens)
  | 0, _ => none
  | _ + 1, [] => some ([], [])
  | fuel + 1, token :: tokens =>
    if token.isWord keyword then do
      let (next, tokens) ← if keyword == "OR" then readAll fuel tokens else readNot fuel tokens
      let (rest, tokens) ← readMore keyword fuel tokens
      some (next :: rest, tokens)
    else some ([], token :: tokens)

def readNot : Nat → Tokens → Option (Expr × Tokens)
  | 0, _ => none
  | _ + 1, [] => none
  | fuel + 1, token :: tokens =>
    if token.isWord "NOT" && !afterName tokens then do
      let (inner, tokens) ← readNot fuel tokens
      some (not inner, tokens)
    else do
      let (left, tokens) ← readJoined fuel (token :: tokens)
      readComparison fuel left tokens

/-- What an expression is compared with, if it is. -/
def readComparison : Nat → Expr → Tokens → Option (Expr × Tokens)
  | 0, _, _ => none
  | fuel + 1, left, tokens =>
    match tokens with
    | [] => some (left, [])
    | token :: rest =>
      if token.isWord "IS" then
        match rest with
        | first :: second :: rest' =>
          if first.isWord "NOT" && second.isWord "NULL" then some (isNull true left, rest')
          else if first.isWord "NULL" then some (isNull false left, second :: rest')
          else none
        | [first] => if first.isWord "NULL" then some (isNull false left, []) else none
        | [] => none
      else if token.isWord "NOT" then
        match rest with
        | word :: .symbol "(" :: rest =>
          if word.isWord "IN" then do
            let (items, tokens) ← readItems fuel rest
            some (inList true left items, tokens)
          else none
        | _ => none
      else if token.isWord "IN" then
        match rest with
        | .symbol "(" :: rest => do
          let (items, tokens) ← readItems fuel rest
          some (inList false left items, tokens)
        | _ => none
      else if token.isWord "LIKE" then do
        let (right, tokens) ← readJoined fuel rest
        some (compare .like left right, tokens)
      else
        match operator? token with
        | some operator => do
          let (right, tokens) ← readJoined fuel rest
          some (compare operator left right, tokens)
        | none => some (left, token :: rest)

/-- Expressions between commas up to the closing parenthesis. -/
def readItems : Nat → Tokens → Option (List Expr × Tokens)
  | 0, _ => none
  | fuel + 1, tokens => do
    let (first, tokens) ← readAny fuel tokens
    match tokens with
    | .symbol "," :: tokens =>
      let (rest, tokens) ← readItems fuel tokens
      some (first :: rest, tokens)
    | .symbol ")" :: tokens => some ([first], tokens)
    | _ => none

/-- Operands joined from the left. -/
def readJoined : Nat → Tokens → Option (Expr × Tokens)
  | 0, _ => none
  | fuel + 1, tokens => do
    let (first, tokens) ← readOperand fuel tokens
    joinMore fuel first tokens

def joinMore : Nat → Expr → Tokens → Option (Expr × Tokens)
  | 0, _, _ => none
  | fuel + 1, left, tokens =>
    match tokens with
    | .symbol "||" :: tokens => do
      let (right, tokens) ← readOperand fuel tokens
      joinMore fuel (concat left right) tokens
    | tokens => some (left, tokens)

def readOperand : Nat → Tokens → Option (Expr × Tokens)
  | 0, _ => none
  | fuel + 1, tokens =>
    match tokens with
    | .text value :: tokens => some (text value, tokens)
    | .number digits :: tokens => (number? false digits).map (·, tokens)
    | .symbol "-" :: .number digits :: tokens => (number? true digits).map (·, tokens)
    | .symbol "(" :: tokens => do
      let (inner, tokens) ← readAny fuel tokens
      match tokens with
      | .symbol ")" :: tokens => some (group inner, tokens)
      | _ => none
    | .word word :: tokens => ofWord word tokens
    | _ => none

end

/-- An expression at the start of the tokens, and the tokens after it. -/
def read? (tokens : Tokens) : Option (Expr × Tokens) :=
  readAny (8 * tokens.length + 8) tokens

end Expr

/-- A reader of something at the start of the tokens. -/
abbrev Reads (α : Type) := Tokens → Option (α × Tokens)

/-- Reads a keyword. -/
def keyword (text : String) : Reads Unit
  | token :: rest => if token.isWord text then some ((), rest) else none
  | [] => none

def keywords : List String → Reads Unit
  | [], tokens => some ((), tokens)
  | text :: texts, tokens => do
    let (_, tokens) ← keyword text tokens
    keywords texts tokens

def symbol (text : String) : Reads Unit
  | token :: rest => if token == .symbol text then some ((), rest) else none
  | [] => none

def name : Reads String
  | .word text :: rest => some (text, rest)
  | _ => none

/-- Whether the tokens start with a keyword. -/
def startsWith (text : String) (tokens : Tokens) : Bool :=
  (keyword text tokens).isSome

/-- One or more parts between commas; `bound` is at least their number. -/
def separated {α : Type} (part : Reads α) : Nat → Reads (List α)
  | 0, _ => none
  | bound + 1, tokens => do
    let (first, tokens) ← part tokens
    match tokens with
    | .symbol "," :: tokens =>
      let (rest, tokens) ← separated part bound tokens
      some (first :: rest, tokens)
    | _ => some ([first], tokens)

def commaSeparated {α : Type} (part : Reads α) : Reads (List α) := fun tokens =>
  separated part (tokens.length + 1) tokens

/-- A part between parentheses. -/
def parenthesized {α : Type} (part : Reads α) : Reads α := fun tokens => do
  let (_, tokens) ← symbol "(" tokens
  let (value, tokens) ← part tokens
  let (_, tokens) ← symbol ")" tokens
  some (value, tokens)

def readFilter : Reads (Option Expr) := fun tokens =>
  if startsWith "WHERE" tokens then do
    let (filter, tokens) ← Expr.read? (tokens.drop 1)
    some (some filter, tokens)
  else some (none, tokens)

def readJoin : Reads Join := fun tokens => do
  let (_, tokens) ← keywords ["LEFT", "JOIN"] tokens
  let (table, tokens) ← name tokens
  let (joined, tokens) ← if startsWith "AS" tokens then name (tokens.drop 1) else some (table, tokens)
  let (_, tokens) ← keyword "ON" tokens
  let (on, tokens) ← Expr.read? tokens
  some (⟨table, joined, on⟩, tokens)

/-- Joins as long as there are any; `bound` is at least their number. -/
def readJoins : Nat → Reads (List Join)
  | 0, tokens => some ([], tokens)
  | bound + 1, tokens =>
    if startsWith "LEFT" tokens then do
      let (join, tokens) ← readJoin tokens
      let (joins, tokens) ← readJoins bound tokens
      some (join :: joins, tokens)
    else some ([], tokens)

def readSource : Reads (Option Source) := fun tokens =>
  if startsWith "FROM" tokens then do
    let (table, tokens) ← name (tokens.drop 1)
    let (joins, tokens) ← readJoins tokens.length tokens
    some (some ⟨table, joins⟩, tokens)
  else some (none, tokens)

def readDirection (tokens : Tokens) : SortDirection × Tokens :=
  if startsWith "ASC" tokens then (.ascending, tokens.drop 1)
  else if startsWith "DESC" tokens then (.descending, tokens.drop 1)
  else (.ascending, tokens)

def readNulls : Reads (Option NullsOrder) := fun tokens =>
  if startsWith "NULLS" tokens then
    if startsWith "FIRST" (tokens.drop 1) then some (some .first, tokens.drop 2)
    else if startsWith "LAST" (tokens.drop 1) then some (some .last, tokens.drop 2)
    else none
  else some (none, tokens)

def readOrderTerm : Reads OrderTerm := fun tokens => do
  let (expr, tokens) ← Expr.read? tokens
  let (direction, tokens) := readDirection tokens
  let (nulls, tokens) ← readNulls tokens
  some (⟨expr, direction, nulls⟩, tokens)

def readOrder : Reads (List OrderTerm) := fun tokens =>
  if startsWith "ORDER" tokens then do
    let (_, tokens) ← keywords ["ORDER", "BY"] tokens
    commaSeparated readOrderTerm tokens
  else some ([], tokens)

def readInteger : Reads Int64
  | .number text :: rest => (Number.readInt64 text.toList).map (·, rest)
  | .symbol "-" :: .number text :: rest => (Number.readInt64 ('-' :: text.toList)).map (·, rest)
  | _ => none

def readPaging : Reads (Option Paging) := fun tokens =>
  if startsWith "LIMIT" tokens then do
    let (limit, tokens) ← readInteger (tokens.drop 1)
    if startsWith "OFFSET" tokens then
      let (offset, tokens) ← readInteger (tokens.drop 1)
      some (some ⟨limit, some offset⟩, tokens)
    else some (some ⟨limit, none⟩, tokens)
  else some (none, tokens)

def readSelect : Reads Select := fun tokens => do
  let (_, tokens) ← keyword "SELECT" tokens
  let (items, tokens) ← commaSeparated Expr.read? tokens
  let (source, tokens) ← readSource tokens
  let (filter, tokens) ← readFilter tokens
  let (order, tokens) ← readOrder tokens
  let (paging, tokens) ← readPaging tokens
  some (⟨items, source, filter, order, paging⟩, tokens)

def readInsert : Reads Statement := fun tokens => do
  let (_, tokens) ← keyword "INSERT" tokens
  let skipExisting := startsWith "OR" tokens
  let (_, tokens) ← if skipExisting then keywords ["OR", "IGNORE"] tokens else some ((), tokens)
  let (_, tokens) ← keyword "INTO" tokens
  let (table, tokens) ← name tokens
  if startsWith "DEFAULT" tokens then
    let (_, tokens) ← keywords ["DEFAULT", "VALUES"] tokens
    some (.insertDefaults table, tokens)
  else
    let (columns, tokens) ← parenthesized (commaSeparated name) tokens
    let (_, tokens) ← keyword "VALUES" tokens
    let (rows, tokens) ← commaSeparated (parenthesized (commaSeparated Expr.read?)) tokens
    some (.insert skipExisting table columns rows, tokens)

def readAssignment : Reads (String × Expr) := fun tokens => do
  let (column, tokens) ← name tokens
  let (_, tokens) ← symbol "=" tokens
  let (value, tokens) ← Expr.read? tokens
  some ((column, value), tokens)

def readUpdate : Reads Statement := fun tokens => do
  let (_, tokens) ← keyword "UPDATE" tokens
  let (table, tokens) ← name tokens
  let (_, tokens) ← keyword "SET" tokens
  let (assignments, tokens) ← commaSeparated readAssignment tokens
  let (filter, tokens) ← readFilter tokens
  some (.update table assignments filter, tokens)

def readDelete : Reads Statement := fun tokens => do
  let (_, tokens) ← keywords ["DELETE", "FROM"] tokens
  let (table, tokens) ← name tokens
  let (filter, tokens) ← readFilter tokens
  some (.delete table filter, tokens)

def readTypeName (tokens : Tokens) : String × Tokens :=
  match tokens with
  | .word text :: rest => if Text.sameName text "PRIMARY" then ("", tokens) else (text, rest)
  | _ => ("", tokens)

def readColumnSpec : Reads ColumnSpec := fun tokens => do
  let (column, tokens) ← name tokens
  let (typeName, tokens) := readTypeName tokens
  if startsWith "PRIMARY" tokens then
    let (_, tokens) ← keywords ["PRIMARY", "KEY"] tokens
    some (⟨column, typeName, true⟩, tokens)
  else some (⟨column, typeName, false⟩, tokens)

def readCreateTable : Reads Statement := fun tokens => do
  let (_, tokens) ← keywords ["CREATE", "TABLE"] tokens
  let skipExisting := startsWith "IF" tokens
  let (_, tokens) ← if skipExisting then keywords ["IF", "NOT", "EXISTS"] tokens else some ((), tokens)
  let (table, tokens) ← name tokens
  let (columns, tokens) ← parenthesized (commaSeparated readColumnSpec) tokens
  some (.createTable skipExisting table columns, tokens)

/-- Whatever follows a keyword that is a statement by itself may name the transaction. -/
def readTransaction (statement : Statement) : Reads Statement := fun tokens =>
  if startsWith "TRANSACTION" (tokens.drop 1) then some (statement, tokens.drop 2)
  else some (statement, tokens.drop 1)

def readStatement : Reads Statement := fun tokens =>
  if startsWith "SELECT" tokens then (readSelect tokens).map fun (s, tokens) => (.select s, tokens)
  else if startsWith "INSERT" tokens then readInsert tokens
  else if startsWith "UPDATE" tokens then readUpdate tokens
  else if startsWith "DELETE" tokens then readDelete tokens
  else if startsWith "CREATE" tokens then readCreateTable tokens
  else if startsWith "BEGIN" tokens then readTransaction .openTransaction tokens
  else if startsWith "COMMIT" tokens then readTransaction .commit tokens
  else if startsWith "ROLLBACK" tokens then readTransaction .rollback tokens
  else none

/-- The statement that the tokens form, all of them. -/
def Statement.ofTokens? (tokens : Tokens) : Option Statement :=
  match readStatement tokens with
  | some (statement, []) => some statement
  | _ => none

/-- The statement that a text is. -/
def Statement.read? (sql : String) : Option Statement :=
  (tokens? sql).bind fun tokens => ofTokens? (tokens.map (·.token))

end ObjectStore.Sql
