import ObjectStore.Number.Digits
import ObjectStore.Text.Basic

/-!
# Numbers as text

How numbers are written and read. Integers are plain decimal; a text is an integer when it is digits after at most one sign and its value has 64 bits. A number is displayed with all its digits, written as a literal with a point or an exponent, formatted to six places, or stored in a text column with fifteen significant digits. Reading accepts digits with an optional point and exponent and the words for infinity and not-a-number in any case.
-/

namespace ObjectStore

namespace Number

def writeInt (n : Int) : List Char :=
  if n < 0 then '-' :: Nat.toDigits 10 n.natAbs else Nat.toDigits 10 n.natAbs

/-- The value of a run of digits, at least one. -/
def readNat (cs : List Char) : Option Nat :=
  if !cs.isEmpty && cs.all Char.isDigit then some (Nat.ofDigitChars 10 cs 0) else none

/-- Whether a sign starts the text, and the text after it. -/
def readSign : List Char → Bool × List Char
  | '-' :: rest => (true, rest)
  | '+' :: rest => (false, rest)
  | rest => (false, rest)

/-- The integer as a 64-bit word, unless it does not fit. -/
def int64? (n : Int) : Option Int64 :=
  if -0x8000000000000000 ≤ n && n < 0x8000000000000000 then some (Int64.ofInt n) else none

/-- An optional sign and digits whose value fits 64 bits. -/
def readInt64 (cs : List Char) : Option Int64 :=
  let (negative, digits) := readSign cs
  (readNat digits).bind fun n => int64? (if negative then -(n : Int) else n)

/-- An optional sign and digits, of any size. -/
def readInt (cs : List Char) : Option Int :=
  let (negative, digits) := readSign cs
  (readNat digits).map fun n => if negative then -(n : Int) else n

/-- The exponent after the digits of a number; without one it is zero. -/
def readExponent : List Char → Option Int
  | [] => some 0
  | c :: rest => if c == 'e' || c == 'E' then readInt rest else none

/-- Digits with an optional point among them and an optional exponent. -/
def readDecimal (negative : Bool) (cs : List Char) : Option Double :=
  let whole := cs.takeWhile Char.isDigit
  let rest := cs.dropWhile Char.isDigit
  let (places, rest) := match rest with
    | '.' :: rest => (rest.takeWhile Char.isDigit, rest.dropWhile Char.isDigit)
    | rest => ([], rest)
  (readNat (whole ++ places)).bind fun n =>
    (readExponent rest).map fun exponent => Double.ofDecimal negative n (exponent - places.length)

def readDouble (cs : List Char) : Option Double :=
  let (negative, rest) := readSign cs
  let word := String.ofList (rest.map Char.toLower)
  if word == "inf" || word == "infinity" then some (Double.infinity negative)
  else if word == "nan" then some Double.nan
  else readDecimal negative rest

end Number

namespace Double

/-- A magnitude after its sign, where `infinite` is what an infinite one is called. -/
def withSign (d : Double) (infinite magnitude : List Char) : String :=
  if d.isNaN then "NaN"
  else
    let unsigned := if d.isFinite then magnitude else infinite
    String.ofList (if d.negative then '-' :: unsigned else unsigned)

/-- All digits, and no point after a whole number. -/
def display (d : Double) : String :=
  d.withSign ['i', 'n', 'f'] (d.digits.positional [])

/-- The literal of a number: a point always stands among the digits from `0.0001` up to sixteen whole digits, and an exponent is used outside of that range. -/
def literalChars (d : Digits) : List Char :=
  if -4 < d.point && d.point ≤ 16 then d.positional ['.', '0'] else d.scientific [] Number.writeInt

def literal (d : Double) : String :=
  d.withSign ['i', 'n', 'f'] (literalChars d.digits)

/-- Exactly six digits after the point. -/
def sixPlaces (d : Double) : String :=
  d.withSign ['i', 'n', 'f'] (d.fixedChars 6)

/-- The power of ten in a stored number has a sign and at least two digits. -/
def storedPower (n : Int) : List Char :=
  let digits := Nat.toDigits 10 n.natAbs
  (if n < 0 then '-' else '+') :: (if digits.length < 2 then '0' :: digits else digits)

def storedChars (d : Digits) : List Char :=
  if -4 < d.point && d.point ≤ 15 then d.positional ['.', '0'] else d.scientific ['.', '0'] storedPower

/-- The text of a number in a text column; zero has no sign there. -/
def stored (d : Double) : String :=
  (if d.isZero then zero false else d).withSign ['I', 'n', 'f'] (storedChars (d.significantDigits 15))

end Double

end ObjectStore
