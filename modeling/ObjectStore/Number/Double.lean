/-!
# Binary floating-point words

A `Double` is the 64-bit word of an IEEE 754 binary64 number. Its parts are read off the word by division, and every operation is exact arithmetic on natural numbers: a finite word stands for `± m · 2 ^ e`, and a fraction becomes the nearest word, a tie going to the even one. Comparison follows IEEE 754, so that a NaN equals nothing and the two zeros are equal.
-/

namespace ObjectStore

structure Double where
  bits : UInt64
  deriving DecidableEq, Inhabited

namespace Double

def word (d : Double) : Nat :=
  d.bits.toNat

/-- The bit of a word that is set if it is negative. -/
def signBit : Nat := 0x8000000000000000

/-- The bit above the fifty-two fraction bits, which a normal significand has and its word leaves out. -/
def leadingBit : Nat := 0x10000000000000

def negative (d : Double) : Bool :=
  signBit ≤ d.word

/-- The eleven exponent bits. -/
def exponentField (d : Double) : Nat :=
  d.word / leadingBit % 0x800

def fraction (d : Double) : Nat :=
  d.word % leadingBit

def isFinite (d : Double) : Bool :=
  d.exponentField != 2047

/-- The number itself if it is finite. -/
def finite? (d : Double) : Option Double :=
  if d.isFinite then some d else none

def isNaN (d : Double) : Bool :=
  !d.isFinite && d.fraction != 0

def isZero (d : Double) : Bool :=
  d.exponentField == 0 && d.fraction == 0

/-- The magnitude of a finite word is `significand · 2 ^ exponent`. -/
def significand (d : Double) : Nat :=
  if d.exponentField = 0 then d.fraction else leadingBit + d.fraction

def exponent (d : Double) : Int :=
  if d.exponentField = 0 then -1074 else d.exponentField - 1075

/-- The word with the given sign and the given lower 63 bits. -/
def ofMagnitude (negative : Bool) (magnitude : Nat) : Double :=
  ⟨UInt64.ofNat ((if negative then signBit else 0) + magnitude)⟩

/-- The lower 63 bits of an infinity. -/
def infinityWord : Nat := 2047 * leadingBit

def zero (negative : Bool) : Double := ofMagnitude negative 0

def infinity (negative : Bool) : Double := ofMagnitude negative infinityWord

/-- The word that stands for every NaN. -/
def nan : Double := ofMagnitude false (infinityWord + leadingBit / 2)

/-- The word with its sign cleared. -/
def abs (d : Double) : Double :=
  ofMagnitude false (d.word % signBit)

/-- `m · 2 ^ e` as a fraction. -/
def scaleTwo (m : Nat) (e : Int) : Nat × Nat :=
  if 0 ≤ e then (m * Nat.pow 2 e.toNat, 1) else (m, Nat.pow 2 (-e).toNat)

/-- The magnitude of a finite word as a fraction. -/
def toFraction (d : Double) : Nat × Nat :=
  scaleTwo d.significand d.exponent

/-- The integer nearest to `num / den`, a tie going to the even one. -/
def roundHalfEven (num den : Nat) : Nat :=
  let q := num / den
  let twice := 2 * (num % den)
  if twice < den then q
  else if den < twice then q + 1
  else if q % 2 = 0 then q
  else q + 1

/-- The exponent `k` with `2 ^ k ≤ num / den < 2 ^ (k + 1)`, for a positive fraction. -/
def floorLogTwo (num den : Nat) : Int :=
  let k : Int := (Nat.log2 num : Int) - Nat.log2 den
  let fits := if 0 ≤ k then den * Nat.pow 2 k.toNat ≤ num else den ≤ num * Nat.pow 2 (-k).toNat
  if fits then k else k - 1

/-- The lower 63 bits of the word nearest to `num / den`. A carry out of the significand moves on to the next exponent by itself. -/
def roundWord (num den : Nat) : Nat :=
  if num = 0 then 0
  else
    let e := max (floorLogTwo num den - 52) (-1074)
    let m :=
      if 0 ≤ e then roundHalfEven num (den * Nat.pow 2 e.toNat) else roundHalfEven (num * Nat.pow 2 (-e).toNat) den
    min ((e + 1074).toNat * leadingBit + m) infinityWord

/-- The word nearest to `± num / den`. -/
def ofFraction (negative : Bool) (num den : Nat) : Double :=
  ofMagnitude negative (roundWord num den)

/-- The word nearest to `± digits · 10 ^ exponent`. Magnitudes far outside the range are settled by their number of digits alone. -/
def ofDecimal (negative : Bool) (digits : Nat) (exponent : Int) : Double :=
  if digits = 0 then zero negative
  else
    let size : Int := (Nat.toDigits 10 digits).length + exponent
    if 400 < size then infinity negative
    else if size < -400 then zero negative
    else if 0 ≤ exponent then ofFraction negative (digits * Nat.pow 10 exponent.toNat) 1
    else ofFraction negative digits (Nat.pow 10 (-exponent).toNat)

/-- The word nearest to an integer. -/
def ofInt (n : Int) : Double :=
  ofFraction (n < 0) n.natAbs 1

/-- Equality of the numbers. -/
def equal (a b : Double) : Bool :=
  !a.isNaN && !b.isNaN && (a == b || (a.isZero && b.isZero))

/-- The integer that a finite word stands for, if it stands for one. -/
def toInt? (d : Double) : Option Int :=
  if d.isFinite then
    let (num, den) := d.toFraction
    if num % den = 0 then
      some (if d.negative then -((num / den : Nat) : Int) else ((num / den : Nat) : Int))
    else none
  else none

/-- Order of the numbers `± num / den`. -/
private def compareFractions (a b : Int × Nat) : Ordering :=
  compare (a.1 * b.2) (b.1 * a.2)

/-- A number on the extended line: the infinities are left and right of every fraction. -/
private def toSigned (d : Double) : Int × Nat :=
  let (num, den) := d.toFraction
  (if d.negative then -(num : Int) else num, den)

/-- Order of the numbers. The infinities compare as the words do, their magnitude being past every finite one. -/
def order (a b : Double) : Ordering :=
  compareFractions a.toSigned b.toSigned

/-- Order of an integer and a number. -/
def orderInt (n : Int) (d : Double) : Ordering :=
  compareFractions (n, 1) d.toSigned

end Double

end ObjectStore
