import ObjectStore.Text.Basic
import ObjectStore.Text.PrintableTable

/-!
# Quoted texts

The form in which a text appears in a diagnostic dump: between double quotes, with escapes for the quote, the backslash, the usual controls, and, by code point, for every other character that has no visible form or extends the character before it.
-/

namespace ObjectStore.Text

/-- The escape by code point, in braces and without leading zeros. -/
def codePointEscape (c : Char) : List Char :=
  ['\\', 'u', '\x7b'] ++ Nat.toDigits 16 c.toNat ++ ['\x7d']

def quotedChar (c : Char) : List Char :=
  if c == '\x00' then ['\\', '0']
  else if c == '\t' then ['\\', 't']
  else if c == '\r' then ['\\', 'r']
  else if c == '\n' then ['\\', 'n']
  else if c == '"' || c == '\\' then ['\\', c]
  else if inRanges extendingRanges c.toNat || inRanges invisibleRanges c.toNat then codePointEscape c
  else [c]

def quoted (s : String) : String :=
  String.ofList ('"' :: s.toList.flatMap quotedChar ++ ['"'])

end ObjectStore.Text
