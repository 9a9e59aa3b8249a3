import ObjectStore.Text.Basic
import ObjectStore.Text.CasingTable

/-!
# Upper and lower case of whole texts

Casing works character by character, where one character may become several. The only context it looks at is that of a capital sigma, whose lower case has a form of its own at the end of a word: a cased character stands before it and none after it, not counting characters that the rule skips.
-/

namespace ObjectStore.Text

/-- The image of a code point under the first run that holds it. -/
def CaseRun.image? (runs : List CaseRun) (n : Nat) : Option Nat :=
  (runs.find? fun run => run.first ≤ n && n ≤ run.last && (n - run.first) % run.step == 0).map
    fun run => ((n : Int) + run.shift).toNat

private def mapCase (expansions : List (Nat × List Nat)) (runs : List CaseRun) (c : Char) : List Char :=
  match expansions.lookup c.toNat with
  | some image => image.map Char.ofNat
  | none => [Char.ofNat ((CaseRun.image? runs c.toNat).getD c.toNat)]

def upperChar (c : Char) : List Char :=
  if c.toNat < 0x80 then [c.toUpper] else mapCase upperExpansions upperRuns c

/-- The lower case of a character out of context. -/
def lowerChar (c : Char) : List Char :=
  if c.toNat < 0x80 then [c.toLower] else mapCase lowerExpansions lowerRuns c

def isCased (c : Char) : Bool :=
  c.isAlpha || inRanges casedRanges c.toNat

def isSkipped (c : Char) : Bool :=
  inRanges skippedRanges c.toNat

/-- Whether the first character that counts is cased. -/
def startsCased (cs : List Char) : Bool :=
  match cs.dropWhile isSkipped with
  | [] => false
  | c :: _ => isCased c

/-- The capital sigma. -/
def capitalSigma : Char := Char.ofNat 0x3A3

/-- The lower case of a sigma between the characters `before`, nearest first, and `after`. -/
def lowerSigma (before after : List Char) : Char :=
  Char.ofNat (if startsCased before && !startsCased after then 0x3C2 else 0x3C3)

private def lowerAfter (before : List Char) : List Char → List Char
  | [] => []
  | c :: rest =>
    (if c == capitalSigma then [lowerSigma before rest] else lowerChar c) ++ lowerAfter (c :: before) rest

def toUpper (s : String) : String :=
  String.ofList (s.toList.flatMap upperChar)

def toLower (s : String) : String :=
  String.ofList (lowerAfter [] s.toList)

end ObjectStore.Text
