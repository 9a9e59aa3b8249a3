import ObjectStore.Number.Double

/-!
# Decimal digits of binary numbers

A positive number is written through its digits: `⟨d₁ … dₙ, p⟩` stands for `0.d₁ … dₙ · 10 ^ p`. The shortest digits of a word are the fewest that read back as that word; of several such numbers of the same length the one nearest to the word is taken, and of two equally near the larger. Candidates are tested by reading them, and should none of up to seventeen digits read back, the exact expansion stands in, so the digits always read back. Two other choices of digits round to a fixed number of places or of significant digits.
-/

namespace ObjectStore

/-- Digits and the position of the decimal point before, inside or after them. -/
structure Digits where
  chars : List Char
  point : Int

namespace Digits

def zeros (n : Int) : List Char :=
  List.replicate n.toNat '0'

/-- The digits of `n · 10 ^ exponent`, without zeros at the end. -/
def ofScaled (n : Nat) (exponent : Int) : Digits :=
  let chars := Nat.toDigits 10 n
  ⟨(chars.reverse.dropWhile (· == '0')).reverse, chars.length + exponent⟩

/-- All digits written out, with zeros up to the point; `whole` is what follows a number without a fraction. -/
def positional (whole : List Char) (d : Digits) : List Char :=
  if d.point ≤ 0 then ['0', '.'] ++ zeros (-d.point) ++ d.chars
  else if d.chars.length ≤ d.point.toNat then d.chars ++ zeros (d.point - d.chars.length) ++ whole
  else d.chars.take d.point.toNat ++ '.' :: d.chars.drop d.point.toNat

/-- One digit, the others after a point, and the mark `e` with the power of ten as `power` writes it; `whole` is what follows a single digit. -/
def scientific (whole : List Char) (power : Int → List Char) (d : Digits) : List Char :=
  d.chars.take 1 ++ (if d.chars.length ≤ 1 then whole else '.' :: d.chars.drop 1) ++ 'e' :: power (d.point - 1)

end Digits

namespace Double

/-- The position of the point: the `p` with `10 ^ (p - 1) ≤ num / den < 10 ^ p`, for a positive fraction. -/
def pointPosition (num den : Nat) : Int :=
  if den ≤ num then (Nat.toDigits 10 (num / den)).length
  else
    let size := (Nat.toDigits 10 (den / num)).length
    if num * Nat.pow 10 (size - 1) = den then 2 - size else 1 - size

/-- The fraction `num / den / 10 ^ exponent`. -/
def scaleTen (num den : Nat) (exponent : Int) : Nat × Nat :=
  if 0 ≤ exponent then (num, den * Nat.pow 10 exponent.toNat) else (num * Nat.pow 10 (-exponent).toNat, den)

def readsBack (d : Double) (n : Nat) (exponent : Int) : Bool :=
  ofDecimal false n exponent == d.abs

/-- The better neighbour of the word on the decimal grid with `size` digits, if one reads back. -/
def shortestOf? (d : Double) (size : Nat) : Option (Nat × Int) :=
  let (num, den) := d.toFraction
  let exponent := pointPosition num den - size
  let (n, m) := scaleTen num den exponent
  let lower := n / m
  match d.readsBack lower exponent, d.readsBack (lower + 1) exponent with
  | true, true => some (if 2 * (n % m) < m then lower else lower + 1, exponent)
  | true, false => some (lower, exponent)
  | false, true => some (lower + 1, exponent)
  | false, false => none

/-- The exact expansion of a word. -/
def exactDecimal (d : Double) : Nat × Int :=
  if 0 ≤ d.exponent then (d.significand * Nat.pow 2 d.exponent.toNat, 0)
  else (d.significand * Nat.pow 5 (-d.exponent).toNat, d.exponent)

/-- The shortest decimal number that reads back as the magnitude of a finite word that is not zero. -/
def shortestDecimal (d : Double) : Nat × Int :=
  ((List.range' 1 17).findSome? d.shortestOf?).getD d.exactDecimal

/-- The digits of a finite word. -/
def digits (d : Double) : Digits :=
  if d.isZero then ⟨['0'], 1⟩
  else Digits.ofScaled d.shortestDecimal.1 d.shortestDecimal.2

/-- The magnitude rounded to `size` significant digits, a half going up. -/
def significantDigits (d : Double) (size : Nat) : Digits :=
  if d.isZero then ⟨['0'], 1⟩
  else
    let (num, den) := d.toFraction
    let exponent := pointPosition num den - size
    let (n, m) := scaleTen num den exponent
    Digits.ofScaled ((2 * n + m) / (2 * m)) exponent

/-- The magnitude rounded to `places` digits after the point, a half going to the even digit. -/
def fixedChars (d : Double) (places : Nat) : List Char :=
  let (num, den) := d.toFraction
  let chars := Nat.toDigits 10 (roundHalfEven (num * Nat.pow 10 places) den)
  let padded := List.replicate (places + 1 - chars.length) '0' ++ chars
  let size := padded.length - places
  padded.take size ++ '.' :: padded.drop size

end Double

end ObjectStore
