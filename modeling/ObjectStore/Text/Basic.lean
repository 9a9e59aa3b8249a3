/-!
# ASCII case, identifiers and surrounding blanks

Names of keys, modifiers and types are compared ignoring the case of ASCII letters only. An identifier is what may stand in a statement without quoting: a letter or an underscore, then letters, digits and underscores, all of them ASCII. Blanks are the characters with the Unicode property White_Space.
-/

namespace ObjectStore.Text

/-- Lower case of the ASCII letters, every other character unchanged. -/
def lowerAscii (s : String) : String :=
  String.ofList (s.toList.map Char.toLower)

/-- Upper case of the ASCII letters, every other character unchanged. -/
def upperAscii (s : String) : String :=
  String.ofList (s.toList.map Char.toUpper)

/-- Equality up to the case of ASCII letters. -/
def sameName (a b : String) : Bool :=
  a.toList.map Char.toLower == b.toList.map Char.toLower

theorem sameName_iff (a b : String) : sameName a b = true ↔ a.toList.map Char.toLower = b.toList.map Char.toLower :=
  beq_iff_eq

theorem sameName_self (a : String) : sameName a a = true :=
  (sameName_iff a a).2 rfl

theorem sameName_symm {a b : String} (h : sameName a b = true) : sameName b a = true :=
  (sameName_iff b a).2 ((sameName_iff a b).1 h).symm

theorem sameName_trans {a b c : String} (h : sameName a b = true) (h' : sameName b c = true) : sameName a c = true :=
  (sameName_iff a c).2 (((sameName_iff a b).1 h).trans ((sameName_iff b c).1 h'))

theorem sameName_congr {a b : String} (h : sameName a b = true) (other : String) : sameName other a = sameName other b := by
  rw [Bool.eq_iff_iff, sameName_iff, sameName_iff, (sameName_iff a b).1 h]

def isIdentifierStart (c : Char) : Bool :=
  c.isAlpha || c == '_'

def isIdentifierPart (c : Char) : Bool :=
  c.isAlphanum || c == '_'

def isIdentifierChars : List Char → Bool
  | [] => false
  | c :: rest => isIdentifierStart c && rest.all isIdentifierPart

def isIdentifier (s : String) : Bool :=
  isIdentifierChars s.toList

/-- The characters with the Unicode property White_Space. -/
def isBlank (c : Char) : Bool :=
  let n := c.toNat
  (0x9 ≤ n && n ≤ 0xD) || n == 0x20 || n == 0x85 || n == 0xA0 || n == 0x1680 ||
    (0x2000 ≤ n && n ≤ 0x200A) || n == 0x2028 || n == 0x2029 || n == 0x202F || n == 0x205F || n == 0x3000

/-- The characters without the blanks at both ends. -/
def trim (cs : List Char) : List Char :=
  ((cs.dropWhile isBlank).reverse.dropWhile isBlank).reverse

/-- The controls, which a statement never holds literally: U+0000 to U+001F and U+007F to U+009F. -/
def isControl (c : Char) : Bool :=
  c.toNat < 0x20 || (0x7F ≤ c.toNat && c.toNat < 0xA0)

/-- Whether a code point lies in one of the inclusive ranges. -/
def inRanges (ranges : List (Nat × Nat)) (n : Nat) : Bool :=
  ranges.any fun range => range.1 ≤ n && n ≤ range.2

end ObjectStore.Text
