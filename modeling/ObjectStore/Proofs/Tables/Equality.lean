import Mathlib.Algebra.Order.Field.Rat
import Mathlib.Data.Rat.Defs
import ObjectStore.Tables.Eval

/-!
# Equality of cells

Two cells compare as equal exactly if they stand for the same thing: the same number, whether it is stored as an integer or as a binary number, the same text or the same bytes. So equality in a statement is symmetric and transitive, and an absent cell equals nothing.
-/

namespace ObjectStore

/-! ### Numbers -/

namespace Double

/-- The number that a finite word stands for; the infinities go on with the words before them. -/
def toRat (d : Double) : ℚ :=
  (if d.negative then -(d.toFraction.1 : ℤ) else (d.toFraction.1 : ℤ)) / (d.toFraction.2 : ℚ)

theorem toFraction_den_pos (d : Double) : 0 < d.toFraction.2 := by
  rw [toFraction, scaleTwo]
  split
  · exact Nat.one_pos
  · exact Nat.two_pow_pos _

private theorem cross_eq_iff {a b : ℤ} {c d : ℕ} (hc : 0 < c) (hd : 0 < d) :
    a * d = b * c ↔ (a : ℚ) / c = (b : ℚ) / d := by
  have hc' : (c : ℚ) ≠ 0 := Nat.cast_ne_zero.2 hc.ne'
  have hd' : (d : ℚ) ≠ 0 := Nat.cast_ne_zero.2 hd.ne'
  rw [div_eq_div_iff hc' hd']
  exact_mod_cast Iff.rfl

theorem order_eq_iff (a b : Double) : order a b = .eq ↔ a.toRat = b.toRat := by
  have horder : order a b = compare
      ((if a.negative then -(a.toFraction.1 : ℤ) else (a.toFraction.1 : ℤ)) * (b.toFraction.2 : ℤ))
      ((if b.negative then -(b.toFraction.1 : ℤ) else (b.toFraction.1 : ℤ)) * (a.toFraction.2 : ℤ)) := rfl
  rw [horder, compare_eq_iff_eq, cross_eq_iff a.toFraction_den_pos b.toFraction_den_pos]
  rfl

theorem orderInt_eq_iff (n : ℤ) (d : Double) : orderInt n d = .eq ↔ (n : ℚ) = d.toRat := by
  have horder : orderInt n d = compare (n * (d.toFraction.2 : ℤ))
      ((if d.negative then -(d.toFraction.1 : ℤ) else (d.toFraction.1 : ℤ)) * ((1 : ℕ) : ℤ)) := rfl
  rw [horder, compare_eq_iff_eq, cross_eq_iff Nat.one_pos d.toFraction_den_pos, Nat.cast_one, div_one]
  rfl

end Double

namespace Tables

/-- What a cell stands for, if it is not absent. -/
inductive Content where
  | number (value : ℚ)
  | text (value : String)
  | blob (bytes : List UInt8)

def content? : Cell → Option Content
  | .null => none
  | .integer n => some (.number n.toInt)
  | .real d => some (.number d.toRat)
  | .text s => some (.text s)
  | .blob bytes => some (.blob bytes)

theorem textOrder_eq_iff (a b : String) : textOrder a b = .eq ↔ a = b := by
  rw [textOrder]
  split
  · next hlt =>
    refine ⟨(fun h => nomatch h), ?_⟩
    rintro rfl
    exact absurd hlt (String.lt_irrefl _)
  · split
    · next heq => exact ⟨fun _ => heq, fun _ => rfl⟩
    · next hne => exact ⟨(fun h => nomatch h), fun h => absurd h hne⟩

theorem bytesOrder_eq_iff (a b : List UInt8) : bytesOrder a b = .eq ↔ a = b := by
  induction a generalizing b with
  | nil => cases b <;> simp [bytesOrder]
  | cons x a ih =>
    cases b with
    | nil => simp [bytesOrder]
    | cons y b =>
      rw [bytesOrder, List.cons_eq_cons]
      by_cases hlt : x < y
      · rw [if_pos hlt]
        exact ⟨(fun h => nomatch h), fun h => absurd h.1 (UInt8.ne_of_lt hlt)⟩
      · rw [if_neg hlt]
        by_cases hgt : y < x
        · rw [if_pos hgt]
          exact ⟨(fun h => nomatch h), fun h => absurd h.1.symm (UInt8.ne_of_lt hgt)⟩
        · rw [if_neg hgt, ih]
          exact ⟨fun h => ⟨UInt8.le_antisymm (UInt8.not_lt.1 hgt) (UInt8.not_lt.1 hlt), h⟩, fun h => h.2⟩

theorem cellOrder_eq_iff {a b : Cell} (ha : a ≠ .null) (hb : b ≠ .null) :
    cellOrder a b = .eq ↔ content? a = content? b := by
  -- cells of different kinds are ordered by kind, and their contents differ
  cases a with
  | null => exact absurd rfl ha
  | integer m =>
    cases b with
    | null => exact absurd rfl hb
    | integer n => simp [cellOrder, content?]
    | real d => simp [cellOrder, content?, Double.orderInt_eq_iff]
    | _ => simp [cellOrder, content?, kindRank]
  | real c =>
    cases b with
    | null => exact absurd rfl hb
    | integer n =>
      have hswap : ∀ o : Ordering, o.swap = .eq ↔ o = .eq := by
        intro o
        cases o <;> decide
      rw [cellOrder, hswap, Double.orderInt_eq_iff]
      simp [content?, eq_comm]
    | real d => simp [cellOrder, content?, Double.order_eq_iff]
    | _ => simp [cellOrder, content?, kindRank]
  | text s =>
    cases b with
    | null => exact absurd rfl hb
    | text t => simp [cellOrder, content?, textOrder_eq_iff]
    | _ => simp [cellOrder, content?, kindRank]
  | blob s =>
    cases b with
    | null => exact absurd rfl hb
    | blob t => simp [cellOrder, content?, bytesOrder_eq_iff]
    | _ => simp [cellOrder, content?, kindRank]

/-- Whether two cells without a preference for a kind compare as equal. -/
def sameCell (a b : Cell) : Bool :=
  compareCells .equal (.none, a) (.none, b) == some true

theorem sameCell_iff (a b : Cell) : sameCell a b = true ↔ a ≠ .null ∧ b ≠ .null ∧ content? a = content? b := by
  by_cases ha : a = .null
  · subst ha
    exact ⟨(fun h => nomatch h), fun h => absurd rfl h.1⟩
  · by_cases hb : b = .null
    · subst hb
      cases a <;> simp [sameCell, compareCells, Affinity.align, Affinity.isNumeric]
    · have hcompare : compareCells .equal (.none, a) (.none, b) = some (cellOrder a b == .eq) := by
        cases a <;> cases b <;> first
          | exact absurd rfl ha
          | exact absurd rfl hb
          | rfl
      rw [sameCell, hcompare, ← cellOrder_eq_iff ha hb]
      simp [ha, hb]

theorem sameCell_null (b : Cell) : sameCell b .null = false := by
  rw [Bool.eq_false_iff, Ne, sameCell_iff]
  exact fun h => h.2.1 rfl

theorem sameCell_of_common {a b c : Cell} (ha : sameCell a c = true) (hb : sameCell b c = true) : sameCell a b = true := by
  rw [sameCell_iff] at ha hb ⊢
  exact ⟨ha.1, hb.1, ha.2.2.trans hb.2.2.symm⟩

end Tables

end ObjectStore
