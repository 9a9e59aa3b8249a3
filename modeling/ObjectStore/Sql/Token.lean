import ObjectStore.Text.Basic

/-!
# Words of a statement

A statement is read as words, numbers, string literals and symbols, each with its place, which is the number of bytes before it. Inside a string literal two quotes stand for one. A text that ends within a string literal, or that holds any other character, is not a statement.
-/

namespace ObjectStore.Sql

inductive Token where
  | word (text : String)
  | number (text : String)
  | text (value : String)
  | symbol (text : String)
  deriving DecidableEq, Inhabited

structure Placed where
  token : Token
  place : Nat
  deriving DecidableEq, Inhabited

namespace Token

/-- Whether the token is the given keyword, in any case. -/
def isWord (keyword : String) : Token → Bool
  | word w => Text.sameName w keyword
  | _ => false

/-- The token as it appears in a message. -/
def display : Token → String
  | word s => s
  | number s => s
  | text s => "'" ++ s ++ "'"
  | symbol s => s

end Token

def isBlank (c : Char) : Bool :=
  c == ' ' || (0x9 ≤ c.toNat && c.toNat ≤ 0xD)

def isWordStart (c : Char) : Bool :=
  Text.isIdentifierStart c || 0x80 ≤ c.toNat

def isWordPart (c : Char) : Bool :=
  Text.isIdentifierPart c || 0x80 ≤ c.toNat

/-- The symbols of one character, some of which may start a longer one. -/
def isSymbol (c : Char) : Bool :=
  c ∈ ['(', ')', ',', '.', ';', '=', '<', '>', '!', '|', '*', '-', '+']

/-- The symbol of two characters, if they are one. -/
def pairSymbol? (first second : Char) : Option String :=
  match first, second with
  | '<', '=' => some "<="
  | '<', '>' => some "<>"
  | '>', '=' => some ">="
  | '!', '=' => some "!="
  | '|', '|' => some "||"
  | _, _ => none

/-- Whether a character continues a number of which the characters `read`, in reverse, have been read. -/
def continuesNumber (read : List Char) (c : Char) : Bool :=
  c.isDigit || c == '.' || c == 'e' || c == 'E' ||
    ((c == '+' || c == '-') && (read.head? == some 'e' || read.head? == some 'E'))

/-- What the scanner is in the middle of, with the characters read so far in reverse. -/
inductive Scan where
  | between
  | word (read : List Char)
  | number (read : List Char)
  | text (read : List Char)
  /-- After a quote inside a string literal, which another quote would continue. -/
  | quote (read : List Char)
  | symbol (first : Char)
  | failed

/-- What a character starts that continues nothing. -/
def Scan.start (c : Char) : Scan :=
  if isBlank c then .between
  else if isWordStart c then .word [c]
  else if c.isDigit then .number [c]
  else if c == '\'' then .text []
  else if isSymbol c then .symbol c
  else .failed

/-- The token that ends here, if one does. A string literal must have been closed. -/
def Scan.finish? : Scan → Option (Option Token)
  | between => some none
  | word read => some (some (.word (String.ofList read.reverse)))
  | number read => some (some (.number (String.ofList read.reverse)))
  | quote read => some (some (.text (String.ofList read.reverse)))
  | symbol first => some (some (.symbol (String.singleton first)))
  | text _ => none
  | failed => none

/-- The next state if the character continues the token. -/
def Scan.continue? (c : Char) : Scan → Option Scan
  | word read => if isWordPart c then some (.word (c :: read)) else none
  | number read => if continuesNumber read c then some (.number (c :: read)) else none
  | text read => if c == '\'' then some (.quote read) else some (.text (c :: read))
  | quote read => if c == '\'' then some (.text ('\'' :: read)) else none
  | failed => some .failed
  | _ => none

/-- The tokens of the characters from a place on, where the token being read started at `began`. -/
def scanFrom (mode : Scan) (began place : Nat) : List Char → Option (List Placed)
  | [] => mode.finish?.map fun token => token.toList.map (⟨·, began⟩)
  | c :: rest =>
    let next := place + c.utf8Size
    match mode, mode.continue? c with
    | _, some mode => scanFrom mode began next rest
    | .symbol first, none =>
      match pairSymbol? first c with
      | some pair => (scanFrom .between next next rest).map (⟨.symbol pair, began⟩ :: ·)
      | none => (scanFrom (.start c) place next rest).map (⟨.symbol (String.singleton first), began⟩ :: ·)
    | mode, none =>
      match mode.finish? with
      | some token => (scanFrom (.start c) place next rest).map (token.toList.map (⟨·, began⟩) ++ ·)
      | none => none

def tokens? (sql : String) : Option (List Placed) :=
  scanFrom .between 0 0 sql.toList

end ObjectStore.Sql
