import ObjectStore.Number.Written
import ObjectStore.Json.Basic

/-!
# JSON tokens

The scanner reads a text character by character. Between tokens it skips blanks; inside a string it collects characters and escapes; any other run of characters is a bare word that must be one of the three constants or a number in JSON's own grammar.
-/

namespace ObjectStore.Json

inductive Token where
  | openArray
  | closeArray
  | openObject
  | closeObject
  | comma
  | colon
  /-- A constant or a number. -/
  | scalar (value : Json)
  | text (value : String)

/-- What the scanner is in the middle of; characters read so far are in reverse. -/
inductive Scan where
  | between
  | bare (read : List Char)
  | text (read : List Char)
  | escape (read : List Char)
  /-- Four hexadecimal digits are due, after the first half of a pair if there was one. -/
  | unit (read : List Char) (half : Option Nat) (digits : List Char)
  /-- The second half of a pair is due, and must start with a backslash. -/
  | pair (read : List Char) (half : Nat)
  /-- The second half of a pair is due, after its backslash. -/
  | pairEscape (read : List Char) (half : Nat)

def isBlank (c : Char) : Bool :=
  c == ' ' || c == '\n' || c == '\t' || c == '\r'

def punctuation? (c : Char) : Option Token :=
  match c with
  | '[' => some .openArray
  | ']' => some .closeArray
  | '\x7b' => some .openObject
  | '\x7d' => some .closeObject
  | ',' => some .comma
  | ':' => some .colon
  | _ => none

/-- The character that follows a backslash, for the escapes of one character. -/
def simpleEscape? (c : Char) : Option Char :=
  match c with
  | '"' => some '"'
  | '\\' => some '\\'
  | '/' => some '/'
  | 'b' => some '\x08'
  | 'f' => some '\x0c'
  | 'n' => some '\n'
  | 'r' => some '\r'
  | 't' => some '\t'
  | _ => none

def hexDigit? (c : Char) : Option Nat :=
  if c.isDigit then some (c.toNat - '0'.toNat)
  else if 'a' ≤ c && c ≤ 'f' then some (c.toNat - 'a'.toNat + 10)
  else if 'A' ≤ c && c ≤ 'F' then some (c.toNat - 'A'.toNat + 10)
  else none

/-- The value of hexadecimal digits given in reverse. -/
def hexValue? : List Char → Option Nat
  | [] => some 0
  | c :: rest => (hexValue? rest).bind fun high => (hexDigit? c).map fun low => 16 * high + low

/-- Digits without a zero in front of others. -/
def isWhole (cs : List Char) : Bool :=
  !cs.isEmpty && cs.all Char.isDigit && (cs.length == 1 || cs.head? != some '0')

/-- A number without point and exponent. It is an integer where it fits 64 bits; zero with a sign is not, since only the other numbers know a negative zero. -/
def wholeNumber (negative : Bool) (n : Nat) : Option Json :=
  let value : Int := if negative then -(n : Int) else n
  if (negative && n == 0) || value < -0x8000000000000000 || 0x10000000000000000 ≤ value then
    (Double.ofFraction negative n 1).finite?.map double
  else some (int value)

/-- A number in JSON's grammar, of finite value. -/
def number? (cs : List Char) : Option Json :=
  let (negative, rest) := match cs with
    | '-' :: rest => (true, rest)
    | rest => (false, rest)
  let whole := rest.takeWhile Char.isDigit
  let tail := rest.dropWhile Char.isDigit
  if !isWhole whole then none
  else if tail.isEmpty then (Number.readNat whole).bind (wholeNumber negative)
  else
    let lacksPlaces := match tail with
      | '.' :: places => (places.takeWhile Char.isDigit).isEmpty
      | _ => false
    if lacksPlaces then none
    else (Number.readDecimal negative rest).bind fun value => value.finite?.map double

def bareToken? (cs : List Char) : Option Token :=
  match String.ofList cs with
  | "null" => some (.scalar null)
  | "true" => some (.scalar (bool true))
  | "false" => some (.scalar (bool false))
  | _ => (number? cs).map .scalar

/-- What a character between tokens starts. -/
def start (c : Char) : Scan :=
  if c == '"' then .text [] else if isBlank c || (punctuation? c).isSome then .between else .bare [c]

/-- The scanner after four hexadecimal digits. A unit of the first half of a pair waits for the second half; a second half alone is no character. -/
def afterUnit (read : List Char) (half : Option Nat) (unit : Nat) : Option Scan :=
  let isFirst := 0xD800 ≤ unit && unit < 0xDC00
  let isSecond := 0xDC00 ≤ unit && unit < 0xE000
  match half with
  | some first =>
    if isSecond then some (.text (Char.ofNat (0x10000 + (first - 0xD800) * 0x400 + (unit - 0xDC00)) :: read))
    else none
  | none =>
    if isFirst then some (.pair read unit)
    else if isSecond then none
    else some (.text (Char.ofNat unit :: read))

/-- The tokens of the characters to come, after the tokens `done` in reverse. -/
def scanFrom (mode : Scan) (done : List Token) : List Char → Option (List Token)
  | [] =>
    match mode with
    | .between => some done.reverse
    | .bare read => (bareToken? read.reverse).map fun token => (token :: done).reverse
    | _ => none
  | c :: rest =>
    match mode with
    | .between => scanFrom (start c) ((punctuation? c).toList ++ done) rest
    | .bare read =>
      if c == '"' || isBlank c || (punctuation? c).isSome then
        match bareToken? read.reverse with
        | some token => scanFrom (start c) ((punctuation? c).toList ++ token :: done) rest
        | none => none
      else scanFrom (.bare (c :: read)) done rest
    | .text read =>
      if c == '"' then scanFrom .between (.text (String.ofList read.reverse) :: done) rest
      else if c == '\\' then scanFrom (.escape read) done rest
      else if c.toNat < 0x20 then none
      else scanFrom (.text (c :: read)) done rest
    | .escape read =>
      if c == 'u' then scanFrom (.unit read none []) done rest
      else
        match simpleEscape? c with
        | some plain => scanFrom (.text (plain :: read)) done rest
        | none => none
    | .unit read half digits =>
      if digits.length < 3 then scanFrom (.unit read half (c :: digits)) done rest
      else
        match (hexValue? (c :: digits)).bind (afterUnit read half) with
        | some next => scanFrom next done rest
        | none => none
    | .pair read half => if c == '\\' then scanFrom (.pairEscape read half) done rest else none
    | .pairEscape read half => if c == 'u' then scanFrom (.unit read (some half) []) done rest else none

def tokens? (s : String) : Option (List Token) :=
  scanFrom .between [] s.toList

end ObjectStore.Json
