import Mathlib.Algebra.Order.Field.Power
import Mathlib.Data.Int.Log
import Mathlib.Data.Rat.Floor
import Mathlib.Tactic.NormNum
import Mathlib.Tactic.Ring
import ObjectStore.Number.Digits

/-!
# Rounding depends on the value alone

A decimal number becomes the nearest binary word through a fraction, and the same number has many fractions. `roundWord` takes equal fractions to the same word, so moving zeros between the digits and the exponent of a decimal number does not change what it reads as. A finite word is a fraction that needs no rounding: its exact expansion reads back as the word, and therefore so do its shortest digits.
-/

namespace ObjectStore.Double

/-! ### Fractions -/

theorem roundHalfEven_mul_left {c : Nat} (hc : 0 < c) (num den : Nat) :
    roundHalfEven (c * num) (c * den) = roundHalfEven num den := by
  have hquot : c * num / (c * den) = num / den := Nat.mul_div_mul_left _ _ hc
  have hrem : c * num % (c * den) = c * (num % den) := Nat.mul_mod_mul_left ..
  have hlow : 2 * (c * (num % den)) < c * den ↔ 2 * (num % den) < den := by
    rw [Nat.mul_left_comm]
    exact Nat.mul_lt_mul_left hc
  have hhigh : c * den < 2 * (c * (num % den)) ↔ den < 2 * (num % den) := by
    rw [Nat.mul_left_comm]
    exact Nat.mul_lt_mul_left hc
  simp only [roundHalfEven, hquot, hrem, hlow, hhigh]

theorem roundHalfEven_congr {num den num' den' : Nat} (hden : 0 < den) (hden' : 0 < den')
    (h : num * den' = num' * den) : roundHalfEven num den = roundHalfEven num' den' :=
  calc roundHalfEven num den = roundHalfEven (den' * num) (den' * den) := (roundHalfEven_mul_left hden' ..).symm
    _ = roundHalfEven (den * num') (den * den') := by
      rw [Nat.mul_comm den' num, h, Nat.mul_comm num' den, Nat.mul_comm den' den]
    _ = roundHalfEven num' den' := roundHalfEven_mul_left hden ..

theorem roundHalfEven_one (n : Nat) : roundHalfEven n 1 = n := by
  simp [roundHalfEven, Nat.mod_one]

/-- Whether a power of two fits under a fraction, decided without leaving the natural numbers. -/
theorem zpow_fits_iff {num den : Nat} (hnum : 0 < num) (hden : 0 < den) (k : Int) :
    (if 0 ≤ k then den * Nat.pow 2 k.toNat ≤ num else den ≤ num * Nat.pow 2 (-k).toNat) ↔
      k ≤ Int.log 2 ((num : ℚ) / den) := by
  have hdenQ : (0 : ℚ) < den := by exact_mod_cast hden
  have hpos : (0 : ℚ) < (num : ℚ) / den := by positivity
  rw [← Int.zpow_le_iff_le_log (by decide) hpos, le_div_iff₀ hdenQ]
  split
  · next hsign =>
    obtain ⟨n, hn⟩ := Int.eq_ofNat_of_zero_le hsign
    rw [hn, Int.toNat_natCast, Nat.pow_eq, zpow_natCast, Nat.mul_comm]
    exact_mod_cast Iff.rfl
  · next hsign =>
    obtain ⟨n, hn⟩ := Int.eq_ofNat_of_zero_le (show 0 ≤ -k by omega)
    have hneg : k = -(n : Int) := by omega
    rw [hn, Int.toNat_natCast, Nat.pow_eq, hneg, zpow_neg, zpow_natCast, inv_mul_le_iff₀ (by positivity), mul_comm]
    exact_mod_cast Iff.rfl

/-- The logarithms of numerator and denominator leave two candidates for that of the fraction. -/
theorem log_div_bounds {num den : Nat} (hnum : 0 < num) (hden : 0 < den) :
    (Nat.log2 num : Int) - Nat.log2 den - 1 ≤ Int.log 2 ((num : ℚ) / den) ∧
      Int.log 2 ((num : ℚ) / den) < (Nat.log2 num : Int) - Nat.log2 den + 1 := by
  have hdenQ : (0 : ℚ) < den := by exact_mod_cast hden
  have hpos : (0 : ℚ) < (num : ℚ) / den := by positivity
  have hnumLow : (2 : ℚ) ^ Nat.log2 num ≤ num := by exact_mod_cast Nat.log2_self_le hnum.ne'
  have hnumHigh : (num : ℚ) < 2 ^ (Nat.log2 num + 1) := by exact_mod_cast Nat.lt_log2_self (n := num)
  have hdenLow : (2 : ℚ) ^ Nat.log2 den ≤ den := by exact_mod_cast Nat.log2_self_le hden.ne'
  have hdenHigh : (den : ℚ) < 2 ^ (Nat.log2 den + 1) := by exact_mod_cast Nat.lt_log2_self (n := den)
  constructor
  · have hsplit : (2 : ℚ) ^ ((Nat.log2 num : Int) - Nat.log2 den - 1) = 2 ^ Nat.log2 num / 2 ^ (Nat.log2 den + 1) := by
      rw [sub_sub, zpow_sub₀ (by norm_num), zpow_natCast, ← Nat.cast_succ, zpow_natCast]
    rw [← Int.zpow_le_iff_le_log (by decide) hpos, Nat.cast_ofNat, hsplit]
    gcongr
  · have hsplit : (2 : ℚ) ^ ((Nat.log2 num : Int) - Nat.log2 den + 1) = 2 ^ (Nat.log2 num + 1) / 2 ^ Nat.log2 den := by
      rw [sub_add_eq_add_sub, zpow_sub₀ (by norm_num), zpow_natCast, ← Nat.cast_succ, zpow_natCast]
    rw [← Int.lt_zpow_iff_log_lt (by decide) hpos, Nat.cast_ofNat, hsplit]
    gcongr

theorem floorLogTwo_eq_log {num den : Nat} (hnum : 0 < num) (hden : 0 < den) :
    floorLogTwo num den = Int.log 2 ((num : ℚ) / den) := by
  obtain ⟨hlow, hhigh⟩ := log_div_bounds hnum hden
  have hfits := zpow_fits_iff hnum hden ((Nat.log2 num : Int) - Nat.log2 den)
  simp only [floorLogTwo]
  by_cases h : (Nat.log2 num : Int) - Nat.log2 den ≤ Int.log 2 ((num : ℚ) / den)
  · rw [if_pos (hfits.2 h)]
    omega
  · rw [if_neg (mt hfits.1 h)]
    omega

theorem floorLogTwo_congr {num den num' den' : Nat} (hnum : 0 < num) (hnum' : 0 < num') (hden : 0 < den)
    (hden' : 0 < den') (h : num * den' = num' * den) : floorLogTwo num den = floorLogTwo num' den' := by
  rw [floorLogTwo_eq_log hnum hden, floorLogTwo_eq_log hnum' hden']
  congr 1
  rw [div_eq_div_iff (by positivity) (by positivity)]
  exact_mod_cast h

/-- The number of steps of `2 ^ e` nearest to `num / den`. -/
def roundAt (e : Int) (num den : Nat) : Nat :=
  if 0 ≤ e then roundHalfEven num (den * Nat.pow 2 e.toNat) else roundHalfEven (num * Nat.pow 2 (-e).toNat) den

theorem roundAt_congr (e : Int) {num den num' den' : Nat} (hden : 0 < den) (hden' : 0 < den')
    (h : num * den' = num' * den) : roundAt e num den = roundAt e num' den' := by
  simp only [roundAt, Nat.pow_eq]
  split
  · apply roundHalfEven_congr (by positivity) (by positivity)
    rw [← Nat.mul_assoc, ← Nat.mul_assoc, h]
  · apply roundHalfEven_congr hden hden'
    rw [Nat.mul_right_comm, h, Nat.mul_right_comm]

theorem roundWord_of_pos {num : Nat} (hnum : 0 < num) (den : Nat) :
    roundWord num den =
      min ((max (floorLogTwo num den - 52) (-1074) + 1074).toNat * leadingBit +
        roundAt (max (floorLogTwo num den - 52) (-1074)) num den) infinityWord := by
  rw [roundWord, if_neg hnum.ne']
  rfl

theorem roundWord_congr {num den num' den' : Nat} (hden : 0 < den) (hden' : 0 < den')
    (h : num * den' = num' * den) : roundWord num den = roundWord num' den' := by
  rcases Nat.eq_zero_or_pos num with rfl | hnum
  · have hzero : num' = 0 := by
      rw [Nat.zero_mul, eq_comm, Nat.mul_eq_zero] at h
      omega
    rw [hzero, roundWord, roundWord, if_pos rfl, if_pos rfl]
  · have hnum' : 0 < num' := by
      rcases Nat.eq_zero_or_pos num' with rfl | hnum'
      · have : 0 < num * den' := Nat.mul_pos hnum hden'
        omega
      · exact hnum'
    rw [roundWord_of_pos hnum, roundWord_of_pos hnum', floorLogTwo_congr hnum hnum' hden hden' h,
      roundAt_congr _ hden hden' h]

theorem ofFraction_congr (negative : Bool) {num den num' den' : Nat} (hden : 0 < den) (hden' : 0 < den')
    (h : num * den' = num' * den) : ofFraction negative num den = ofFraction negative num' den' := by
  rw [ofFraction, ofFraction, roundWord_congr hden hden' h]

/-! ### Decimal numbers -/

theorem length_toDigits_mul_ten {n : Nat} (hn : 0 < n) :
    (Nat.toDigits 10 (10 * n)).length = (Nat.toDigits 10 n).length + 1 := by
  rw [← Nat.add_zero (10 * n), ← Nat.toDigits_append_toDigits (by decide) hn (by decide), List.length_append,
    Nat.toDigits_zero]
  rfl

theorem ofDecimal_ten_mul (negative : Bool) (n : Nat) (e : Int) :
    ofDecimal negative (10 * n) (e - 1) = ofDecimal negative n e := by
  rcases Nat.eq_zero_or_pos n with rfl | hn
  · rw [ofDecimal, ofDecimal, if_pos (Nat.mul_zero 10), if_pos (Eq.refl 0)]
  have hsize : ((Nat.toDigits 10 (10 * n)).length : Int) + (e - 1) = (Nat.toDigits 10 n).length + e := by
    rw [length_toDigits_mul_ten hn]
    push_cast
    ring
  rw [ofDecimal, ofDecimal, if_neg (by omega), if_neg hn.ne']
  simp only [hsize, Nat.pow_eq]
  congr 2
  by_cases hpos : 0 ≤ e - 1
  · obtain ⟨k, hk⟩ := Int.eq_ofNat_of_zero_le hpos
    have he : e = k + 1 := by omega
    rw [if_pos hpos, if_pos (by omega), he, show ((k : Int) + 1 - 1).toNat = k by omega,
      show ((k : Int) + 1).toNat = k + 1 by omega, pow_succ, Nat.mul_comm 10 n, Nat.mul_assoc, Nat.mul_comm 10]
  · rw [if_neg hpos]
    obtain ⟨k, hk⟩ := Int.eq_ofNat_of_zero_le (show 0 ≤ -e by omega)
    have he : e = -k := by omega
    have hk1 : (-(e - 1)).toNat = k + 1 := by omega
    split
    · next hzero =>
      have hk0 : k = 0 := by omega
      apply ofFraction_congr negative (by positivity) (by positivity)
      rw [hk1, he, hk0]
      simp only [Nat.cast_zero, neg_zero, Int.toNat_zero]
      ring
    · apply ofFraction_congr negative (by positivity) (by positivity)
      rw [hk1, show (-e).toNat = k by omega]
      ring

/-- Zeros at the end of the digits stand for the same number as a larger exponent. -/
theorem ofDecimal_mul_pow (negative : Bool) (n k : Nat) (e : Int) :
    ofDecimal negative (n * 10 ^ k) (e - k) = ofDecimal negative n e := by
  induction k with
  | zero => rw [pow_zero, Nat.mul_one, Nat.cast_zero, sub_zero]
  | succ k ih =>
    have hdigits : n * 10 ^ (k + 1) = 10 * (n * 10 ^ k) := by ring
    have hexponent : e - ((k + 1 : Nat) : Int) = e - k - 1 := by
      push_cast
      ring
    rw [hdigits, hexponent, ofDecimal_ten_mul, ih]

/-! ### Finite words -/

theorem word_eq_magnitude (d : Double) : d.word % signBit = d.exponentField * leadingBit + d.fraction := by
  simp only [exponentField, fraction, signBit, leadingBit]
  omega

theorem eq_ofMagnitude (d : Double) : d = ofMagnitude d.negative (d.word % signBit) := by
  have hword : d.word < 2 ^ 64 := d.bits.toNat_lt
  have hparts : (if d.negative then signBit else 0) + d.word % signBit = d.word := by
    by_cases hsign : signBit ≤ d.word
    · rw [negative, decide_eq_true hsign, if_pos rfl]
      simp only [signBit] at hsign ⊢
      omega
    · rw [negative, decide_eq_false hsign, if_neg Bool.false_ne_true]
      simp only [signBit] at hsign ⊢
      omega
  rw [ofMagnitude, hparts]
  exact congrArg Double.mk (UInt64.toNat_inj.1 (UInt64.toNat_ofNat_of_lt' hword).symm)

theorem scaleTwo_den_pos (m : Nat) (e : Int) : 0 < (scaleTwo m e).2 := by
  simp only [scaleTwo, Nat.pow_eq]
  split
  · exact Nat.one_pos
  · exact Nat.two_pow_pos _

theorem scaleTwo_value (m : Nat) (e : Int) : ((scaleTwo m e).1 : ℚ) / (scaleTwo m e).2 = m * 2 ^ e := by
  simp only [scaleTwo, Nat.pow_eq]
  split
  · next h =>
    obtain ⟨k, rfl⟩ := Int.eq_ofNat_of_zero_le h
    simp
  · next h =>
    obtain ⟨k, hk⟩ := Int.eq_ofNat_of_zero_le (show 0 ≤ -e by omega)
    have he : e = -k := by omega
    simp [he, div_eq_mul_inv]

theorem scaleTwo_num_pos {m : Nat} (hm : 0 < m) (e : Int) : 0 < (scaleTwo m e).1 := by
  simp only [scaleTwo, Nat.pow_eq]
  split
  · exact Nat.mul_pos hm (Nat.two_pow_pos _)
  · exact hm

theorem floorLogTwo_scaleTwo {m : Nat} (hm : 0 < m) (e : Int) :
    floorLogTwo (scaleTwo m e).1 (scaleTwo m e).2 = Nat.log2 m + e := by
  rw [floorLogTwo_eq_log (scaleTwo_num_pos hm e) (scaleTwo_den_pos m e), scaleTwo_value]
  have hpos : (0 : ℚ) < m * 2 ^ e := by positivity
  have hlow : (2 : ℚ) ^ Nat.log2 m ≤ m := by exact_mod_cast Nat.log2_self_le hm.ne'
  have hhigh : (m : ℚ) < 2 ^ (Nat.log2 m + 1) := by exact_mod_cast Nat.lt_log2_self (n := m)
  have hle : (Nat.log2 m : Int) + e ≤ Int.log 2 ((m : ℚ) * 2 ^ e) := by
    rw [← Int.zpow_le_iff_le_log (by decide) hpos, Nat.cast_ofNat, zpow_add₀ (by norm_num), zpow_natCast]
    gcongr
  have hlt : Int.log 2 ((m : ℚ) * 2 ^ e) < (Nat.log2 m : Int) + 1 + e := by
    rw [← Int.lt_zpow_iff_log_lt (by decide) hpos, Nat.cast_ofNat, zpow_add₀ (by norm_num), ← Nat.cast_succ,
      zpow_natCast]
    gcongr
  omega

theorem roundAt_scaleTwo (m : Nat) (e : Int) : roundAt e (scaleTwo m e).1 (scaleTwo m e).2 = m := by
  simp only [roundAt, scaleTwo, Nat.pow_eq]
  split
  · rw [← roundHalfEven_one m]
    apply roundHalfEven_congr (by positivity) Nat.one_pos
    rw [roundHalfEven_one]
    ring
  · rw [← roundHalfEven_one m]
    apply roundHalfEven_congr (by positivity) Nat.one_pos
    rw [roundHalfEven_one, Nat.mul_one]

/-- The step of a finite word is the one that rounding chooses for it. -/
theorem exponent_eq_max {d : Double} (hpos : 0 < d.significand) :
    max ((Nat.log2 d.significand : Int) + d.exponent - 52) (-1074) = d.exponent := by
  have hfraction : d.fraction < 2 ^ 52 := Nat.mod_lt _ (by decide)
  by_cases hfield : d.exponentField = 0
  · have hlog : Nat.log2 d.significand < 52 := by
      rw [Nat.log2_lt hpos.ne', significand, if_pos hfield]
      exact hfraction
    rw [exponent, if_pos hfield]
    omega
  · have hlog : Nat.log2 d.significand = 52 := by
      rw [Nat.log2_eq_iff hpos.ne', significand, if_neg hfield, leadingBit]
      omega
    rw [exponent, if_neg hfield, hlog]
    omega

theorem significand_add_steps (d : Double) :
    (d.exponent + 1074).toNat * leadingBit + d.significand = d.exponentField * leadingBit + d.fraction := by
  by_cases hfield : d.exponentField = 0
  · rw [exponent, significand, if_pos hfield, if_pos hfield, hfield]
    simp
  · rw [exponent, significand, if_neg hfield, if_neg hfield]
    have hsteps : ((d.exponentField : Int) - 1075 + 1074).toNat + 1 = d.exponentField := by omega
    rw [← Nat.add_assoc, ← Nat.succ_mul, Nat.succ_eq_add_one, hsteps]

/-- A finite word is the nearest word to the number it stands for. -/
theorem roundWord_toFraction {d : Double} (hfinite : d.isFinite = true) :
    roundWord d.toFraction.1 d.toFraction.2 = d.word % signBit := by
  rcases Nat.eq_zero_or_pos d.significand with hzero | hpos
  · have hfield : d.exponentField = 0 := by
      by_contra hfield
      rw [significand, if_neg hfield, leadingBit] at hzero
      omega
    rw [significand, if_pos hfield] at hzero
    have hnum : d.toFraction.1 = 0 := by
      rw [toFraction, significand, if_pos hfield, hzero, scaleTwo]
      split <;> simp
    rw [hnum, roundWord, if_pos rfl, word_eq_magnitude, hfield, hzero, Nat.zero_mul]
  · have hfield : d.exponentField ≤ 2046 := by
      have hlt : d.exponentField < 2048 := Nat.mod_lt _ (by decide)
      have hne : d.exponentField ≠ 2047 := by simpa [isFinite] using hfinite
      omega
    have hfraction : d.fraction < leadingBit := Nat.mod_lt _ (by decide)
    rw [toFraction, roundWord_of_pos (scaleTwo_num_pos hpos _), floorLogTwo_scaleTwo hpos, exponent_eq_max hpos,
      roundAt_scaleTwo, significand_add_steps, word_eq_magnitude]
    apply Nat.min_eq_left
    have hle : d.exponentField * leadingBit ≤ 2046 * leadingBit := Nat.mul_le_mul_right _ hfield
    rw [infinityWord]
    omega

theorem ofFraction_toFraction (negative : Bool) {d : Double} (hfinite : d.isFinite = true) :
    ofFraction negative d.toFraction.1 d.toFraction.2 = ofMagnitude negative (d.word % signBit) := by
  rw [ofFraction, roundWord_toFraction hfinite]

/-! ### Decimals that read back -/

theorem roundWord_lt (num den : Nat) : roundWord num den < signBit := by
  rcases Nat.eq_zero_or_pos num with rfl | hnum
  · rw [roundWord, if_pos rfl, signBit]
    decide
  · rw [roundWord_of_pos hnum]
    exact Nat.lt_of_le_of_lt (Nat.min_le_right _ _) (by decide)

/-- The sign of a decimal number is that of the word, and its magnitude does not depend on it. -/
theorem ofDecimal_eq_ofMagnitude (n : Nat) (e : Int) :
    ∃ magnitude < signBit, ∀ negative, ofDecimal negative n e = ofMagnitude negative magnitude := by
  have hinfinity : infinityWord < signBit := by decide
  have hzero : 0 < signBit := by decide
  by_cases hn : n = 0
  · exact ⟨0, hzero, fun _ => by rw [ofDecimal, if_pos hn, zero]⟩
  simp only [ofDecimal, if_neg hn]
  split
  · exact ⟨infinityWord, hinfinity, fun _ => rfl⟩
  · split
    · exact ⟨0, hzero, fun _ => rfl⟩
    · split
      · exact ⟨_, roundWord_lt _ _, fun _ => rfl⟩
      · exact ⟨_, roundWord_lt _ _, fun _ => rfl⟩

theorem ofMagnitude_inj {m m' : Nat} (hm : m < signBit) (hm' : m' < signBit)
    (h : ofMagnitude false m = ofMagnitude false m') : m = m' := by
  have hbits := congrArg (fun d => d.bits.toNat) h
  simp only [signBit] at hm hm'
  simp only [ofMagnitude, Bool.false_eq_true, if_false, Nat.zero_add] at hbits
  rwa [UInt64.toNat_ofNat_of_lt' (show m < 2 ^ 64 by omega), UInt64.toNat_ofNat_of_lt' (show m' < 2 ^ 64 by omega)]
    at hbits

theorem ofDecimal_of_abs {d : Double} {n : Nat} {e : Int} (h : ofDecimal false n e = d.abs) :
    ofDecimal d.negative n e = d := by
  obtain ⟨magnitude, hlt, hsigned⟩ := ofDecimal_eq_ofMagnitude n e
  have hword : magnitude = d.word % signBit := by
    rw [hsigned, abs] at h
    exact ofMagnitude_inj hlt (Nat.mod_lt _ (by decide)) h
  rw [hsigned, hword]
  exact d.eq_ofMagnitude.symm

theorem significand_lt (d : Double) : d.significand < 2 ^ 53 := by
  have hfraction : d.fraction < 2 ^ 52 := Nat.mod_lt _ (by decide)
  rw [significand]
  split
  · omega
  · rw [leadingBit]
    omega

theorem significand_pos {d : Double} (hzero : d.isZero = false) : 0 < d.significand := by
  rw [significand]
  split
  · next hfield =>
    rw [isZero, hfield] at hzero
    have hfraction : d.fraction ≠ 0 := by simpa using hzero
    omega
  · rw [leadingBit]
    omega

theorem two_pow_le_ten_pow {c j : Nat} (h : j ≤ 3 * c) : 2 ^ j ≤ 10 ^ c :=
  calc 2 ^ j ≤ 2 ^ (3 * c) := Nat.pow_le_pow_right (by decide) h
    _ = (2 ^ 3) ^ c := pow_mul 2 3 c
    _ ≤ 10 ^ c := Nat.pow_le_pow_left (by decide) c

theorem ten_pow_le_five_pow {c j : Nat} (h : j ≤ 2 * c) : 10 ^ j ≤ 5 ^ (j + c) :=
  calc 10 ^ j = 2 ^ j * 5 ^ j := Nat.mul_pow 2 5 j
    _ ≤ 2 ^ (2 * c) * 5 ^ j := Nat.mul_le_mul_right _ (Nat.pow_le_pow_right (by decide) h)
    _ = (2 ^ 2) ^ c * 5 ^ j := by rw [pow_mul]
    _ ≤ 5 ^ c * 5 ^ j := Nat.mul_le_mul_right _ (Nat.pow_le_pow_left (by decide) c)
    _ = 5 ^ (j + c) := by rw [← pow_add, Nat.add_comm]

theorem exponent_range {d : Double} (hfinite : d.isFinite = true) : -1074 ≤ d.exponent ∧ d.exponent ≤ 971 := by
  have hlt : d.exponentField < 2048 := Nat.mod_lt _ (by decide)
  have hne : d.exponentField ≠ 2047 := by simpa [isFinite] using hfinite
  rw [exponent]
  split <;> omega

/-- The exact expansion has a magnitude that reading does not cut off. -/
theorem exactDecimal_size {d : Double} (hfinite : d.isFinite = true) (hpos : 0 < d.significand) :
    -400 ≤ ((Nat.toDigits 10 d.exactDecimal.1).length : Int) + d.exactDecimal.2 ∧
      ((Nat.toDigits 10 d.exactDecimal.1).length : Int) + d.exactDecimal.2 ≤ 400 := by
  obtain ⟨hmin, hmax⟩ := exponent_range hfinite
  by_cases hsign : 0 ≤ d.exponent
  · obtain ⟨k, hk⟩ := Int.eq_ofNat_of_zero_le hsign
    have hbound : d.significand * 2 ^ k < 10 ^ (k / 3 + 19) :=
      calc d.significand * 2 ^ k < 2 ^ 53 * 2 ^ k := Nat.mul_lt_mul_of_pos_right d.significand_lt (Nat.two_pow_pos k)
        _ = 2 ^ (53 + k) := (pow_add ..).symm
        _ ≤ 10 ^ (k / 3 + 19) := two_pow_le_ten_pow (by omega)
    have hle : (Nat.toDigits 10 (d.significand * 2 ^ k)).length ≤ k / 3 + 19 :=
      (Nat.length_toDigits_le_iff (by decide) (by omega)).2 hbound
    have hexact : d.exactDecimal = (d.significand * 2 ^ k, 0) := by
      rw [exactDecimal, if_pos hsign, hk, Int.toNat_natCast, Nat.pow_eq]
    rw [hexact]
    simp only
    omega
  · obtain ⟨k, hk⟩ := Int.eq_ofNat_of_zero_le (show 0 ≤ -d.exponent by omega)
    have hbound : d.significand * 5 ^ k < 10 ^ (k + 16) :=
      calc d.significand * 5 ^ k < 2 ^ 53 * 5 ^ k := Nat.mul_lt_mul_of_pos_right d.significand_lt (by positivity)
        _ ≤ 10 ^ 16 * 10 ^ k := Nat.mul_le_mul (by norm_num) (Nat.pow_le_pow_left (by decide) k)
        _ = 10 ^ (k + 16) := by rw [pow_add, Nat.mul_comm]
    have hle : (Nat.toDigits 10 (d.significand * 5 ^ k)).length ≤ k + 16 :=
      (Nat.length_toDigits_le_iff (by decide) (by omega)).2 hbound
    have hge : k - 400 ≤ (Nat.toDigits 10 (d.significand * 5 ^ k)).length := by
      rcases Nat.lt_or_ge 400 k with hlarge | hsmall
      · obtain ⟨j, rfl⟩ : ∃ j, k = j + 400 := ⟨k - 400, by omega⟩
        have hten : 10 ^ j ≤ d.significand * 5 ^ (j + 400) :=
          (ten_pow_le_five_pow (by omega)).trans (Nat.le_mul_of_pos_left _ hpos)
        by_contra hshort
        exact Nat.not_lt.2 hten ((Nat.length_toDigits_le_iff (by decide) (by omega)).1 (by omega))
      · omega
    have hexact : d.exactDecimal = (d.significand * 5 ^ k, d.exponent) := by
      rw [exactDecimal, if_neg hsign, hk, Int.toNat_natCast, Nat.pow_eq]
    rw [hexact]
    simp only
    omega

theorem ofDecimal_exactDecimal {d : Double} (hfinite : d.isFinite = true) (hpos : 0 < d.significand) :
    ofDecimal false d.exactDecimal.1 d.exactDecimal.2 = d.abs := by
  obtain ⟨hlow, hhigh⟩ := exactDecimal_size hfinite hpos
  rw [abs, ← ofFraction_toFraction false hfinite, toFraction]
  by_cases hsign : 0 ≤ d.exponent
  · simp only [exactDecimal, if_pos hsign, Nat.pow_eq] at hlow hhigh ⊢
    have hnum : d.significand * 2 ^ d.exponent.toNat ≠ 0 := by positivity
    rw [ofDecimal, if_neg hnum]
    simp only
    rw [if_neg (by omega), if_neg (by omega), if_pos (by decide), Int.toNat_zero, Nat.pow_eq, pow_zero, Nat.mul_one,
      scaleTwo, if_pos hsign, Nat.pow_eq]
  · simp only [exactDecimal, if_neg hsign, Nat.pow_eq] at hlow hhigh ⊢
    have hnum : d.significand * 5 ^ (-d.exponent).toNat ≠ 0 := by positivity
    rw [ofDecimal, if_neg hnum]
    simp only
    rw [if_neg (by omega), if_neg (by omega), if_neg hsign, scaleTwo, if_neg hsign]
    apply ofFraction_congr false (Nat.pow_pos (by decide)) (Nat.two_pow_pos _)
    rw [Nat.mul_assoc, ← Nat.mul_pow]

/-- Whichever decimal is chosen for a word reads back as the word. -/
theorem ofDecimal_shortestDecimal {d : Double} (hfinite : d.isFinite = true) (hzero : d.isZero = false) :
    ofDecimal d.negative d.shortestDecimal.1 d.shortestDecimal.2 = d := by
  apply ofDecimal_of_abs
  rw [shortestDecimal]
  cases hfound : (List.range' 1 17).findSome? d.shortestOf? with
  | none => exact ofDecimal_exactDecimal hfinite (significand_pos hzero)
  | some candidate =>
    obtain ⟨size, -, hsize⟩ := List.exists_of_findSome?_eq_some hfound
    have htested : d.readsBack candidate.1 candidate.2 = true := by
      simp only [shortestOf?] at hsize
      split at hsize
      · next hlower hupper =>
        cases hsize
        simp only
        split
        · exact hlower
        · exact hupper
      · next hlower _ =>
        cases hsize
        exact hlower
      · next _ hupper =>
        cases hsize
        exact hupper
      · cases hsize
    exact eq_of_beq htested

end ObjectStore.Double
