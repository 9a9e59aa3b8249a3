import ObjectStore.Number.Written
import ObjectStore.Proofs.Number.Rounding

/-!
# Numbers read back

Digits that are written out, with the point before, inside or after them or with an exponent, read as the number that they denote. So the literal of a finite word reads back as exactly that word, and it is never mistaken for an integer.
-/

namespace ObjectStore

namespace Number

theorem readNat_of_digits {cs : List Char} (hne : cs ≠ []) (hdigits : ∀ c ∈ cs, c.isDigit = true) :
    readNat cs = some (Nat.ofDigitChars 10 cs 0) := by
  rw [readNat, if_pos]
  rw [Bool.and_eq_true, Bool.not_eq_true', List.isEmpty_eq_false_iff, List.all_eq_true]
  exact ⟨hne, hdigits⟩

theorem readNat_eq_none {cs : List Char} {c : Char} (hmem : c ∈ cs) (hdigit : c.isDigit = false) : readNat cs = none := by
  rw [readNat, if_neg]
  rw [Bool.and_eq_true, List.all_eq_true]
  rintro ⟨-, hall⟩
  rw [hall c hmem] at hdigit
  exact Bool.noConfusion hdigit

theorem isDigit_of_mem_toDigits {n : Nat} {c : Char} (h : c ∈ Nat.toDigits 10 n) : c.isDigit = true :=
  Nat.isDigit_of_mem_toDigits (by decide) (by decide) h

theorem readNat_toDigits (n : Nat) : readNat (Nat.toDigits 10 n) = some n := by
  rw [readNat_of_digits Nat.toDigits_ne_nil fun _ => isDigit_of_mem_toDigits, Nat.ofDigitChars_ten_toDigits]

theorem readSign_of_digit {c : Char} (hdigit : c.isDigit = true) (cs : List Char) :
    readSign (c :: cs) = (false, c :: cs) := by
  have hminus : c ≠ '-' := by
    rintro rfl
    exact absurd hdigit (by decide)
  have hplus : c ≠ '+' := by
    rintro rfl
    exact absurd hdigit (by decide)
  unfold readSign
  split
  · next heq => exact absurd (List.cons.inj heq).1 hminus
  · next heq => exact absurd (List.cons.inj heq).1 hplus
  · rfl

theorem readSign_toDigits (n : Nat) : readSign (Nat.toDigits 10 n) = (false, Nat.toDigits 10 n) := by
  cases hdigits : Nat.toDigits 10 n with
  | nil => exact absurd hdigits Nat.toDigits_ne_nil
  | cons c cs => exact readSign_of_digit (isDigit_of_mem_toDigits (n := n) (by rw [hdigits]; exact List.mem_cons_self)) cs

theorem readInt_writeInt (n : Int) : readInt (writeInt n) = some n := by
  rw [writeInt]
  split
  · next hneg =>
    have hread : readInt ('-' :: Nat.toDigits 10 n.natAbs) = some (-(n.natAbs : Int)) := by
      simp only [readInt, readSign, readNat_toDigits]
      rfl
    rw [hread]
    exact congrArg some (by omega)
  · next hneg =>
    have hread : readInt (Nat.toDigits 10 n.natAbs) = some (n.natAbs : Int) := by
      simp only [readInt, readSign_toDigits, readNat_toDigits]
      rfl
    rw [hread]
    exact congrArg some (by omega)

theorem int64?_toInt (n : Int64) : int64? n.toInt = some n := by
  have hlow := n.le_toInt
  have hhigh := n.toInt_lt
  rw [int64?, if_pos, Int64.ofInt_toInt]
  rw [Bool.and_eq_true, decide_eq_true_eq, decide_eq_true_eq]
  exact ⟨hlow, hhigh⟩

theorem readInt64_eq (cs : List Char) : readInt64 cs = (readInt cs).bind int64? := by
  cases hsign : readSign cs with
  | mk negative digits =>
    rw [readInt64, readInt, hsign]
    cases hdigits : readNat digits <;> simp [hdigits]

theorem readInt64_writeInt (n : Int64) : readInt64 (writeInt n.toInt) = some n := by
  rw [readInt64_eq, readInt_writeInt, Option.bind_some, int64?_toInt]

/-! ### Decimal notation -/

section Decimal

variable {whole places : List Char}

private theorem takeWhile_digits (h : ∀ c ∈ whole, c.isDigit = true) {rest : List Char}
    (hrest : ∀ c ∈ rest.head?, c.isDigit = false) : (whole ++ rest).takeWhile Char.isDigit = whole := by
  rw [List.takeWhile_append_of_pos h]
  cases rest with
  | nil => exact List.append_nil _
  | cons c rest => rw [List.takeWhile_cons_of_neg (by rw [hrest c rfl]; decide), List.append_nil]

private theorem dropWhile_digits (h : ∀ c ∈ whole, c.isDigit = true) {rest : List Char}
    (hrest : ∀ c ∈ rest.head?, c.isDigit = false) : (whole ++ rest).dropWhile Char.isDigit = rest := by
  rw [List.dropWhile_append_of_pos h]
  cases rest with
  | nil => rfl
  | cons c rest => rw [List.dropWhile_cons_of_neg (by rw [hrest c rfl]; decide)]

theorem readDecimal_point (negative : Bool) (hwhole : ∀ c ∈ whole, c.isDigit = true)
    (hplaces : ∀ c ∈ places, c.isDigit = true) (hne : whole ++ places ≠ []) {rest : List Char}
    (hrest : ∀ c ∈ rest.head?, c.isDigit = false) {exponent : Int} (hexponent : readExponent rest = some exponent) :
    readDecimal negative (whole ++ '.' :: (places ++ rest)) =
      some (Double.ofDecimal negative (Nat.ofDigitChars 10 (whole ++ places) 0) (exponent - places.length)) := by
  have hpoint : ∀ c ∈ ('.' :: (places ++ rest)).head?, c.isDigit = false := by
    intro c hc
    cases hc
    rfl
  have hall : ∀ c ∈ whole ++ places, c.isDigit = true := by
    intro c hc
    exact (List.mem_append.1 hc).elim (hwhole c) (hplaces c)
  simp only [readDecimal, takeWhile_digits hwhole hpoint, dropWhile_digits hwhole hpoint, takeWhile_digits hplaces hrest,
    dropWhile_digits hplaces hrest, readNat_of_digits hne hall, hexponent, Option.bind_some, Option.map_some]

theorem readDecimal_fixed (negative : Bool) (hwhole : ∀ c ∈ whole, c.isDigit = true)
    (hplaces : ∀ c ∈ places, c.isDigit = true) (hne : whole ++ places ≠ []) :
    readDecimal negative (whole ++ '.' :: places) =
      some (Double.ofDecimal negative (Nat.ofDigitChars 10 (whole ++ places) 0) (-places.length)) := by
  have hnone : readExponent [] = some 0 := rfl
  have hread := readDecimal_point negative hwhole hplaces hne (fun c hc => absurd hc (by simp)) hnone
  rwa [List.append_nil, zero_sub] at hread

theorem readDecimal_exponent (negative : Bool) (hwhole : ∀ c ∈ whole, c.isDigit = true) (hne : whole ≠ [])
    {power : List Char} {exponent : Int} (hexponent : readInt power = some exponent) :
    readDecimal negative (whole ++ 'e' :: power) =
      some (Double.ofDecimal negative (Nat.ofDigitChars 10 whole 0) exponent) := by
  have hmark : ∀ c ∈ ('e' :: power).head?, c.isDigit = false := by
    intro c hc
    cases hc
    rfl
  have hread : readExponent ('e' :: power) = some exponent := by
    rw [readExponent]
    exact hexponent
  rw [readDecimal, takeWhile_digits hwhole hmark, dropWhile_digits hwhole hmark]
  change (readNat (whole ++ [])).bind (fun n => (readExponent ('e' :: power)).map fun e =>
    Double.ofDecimal negative n (e - (0 : Nat))) = _
  rw [List.append_nil, readNat_of_digits hne hwhole, hread, Option.bind_some, Option.map_some, Nat.cast_zero, sub_zero]

end Decimal

end Number

namespace Digits

/-- The number that the digits stand for, as an integer at the end of the last digit. -/
def value (d : Digits) : Nat := Nat.ofDigitChars 10 d.chars 0

/-- Digits as a number has them: at least one, and nothing else. -/
structure Proper (d : Digits) : Prop where
  nonempty : d.chars ≠ []
  digits : ∀ c ∈ d.chars, c.isDigit = true

variable {d : Digits}

theorem isDigit_of_mem_zeros {n : Int} {c : Char} (h : c ∈ zeros n) : c.isDigit = true := by
  rw [List.eq_of_mem_replicate h]
  rfl

private theorem readDecimal_positional_fraction (hd : d.Proper) (hpoint : d.point ≤ 0) (negative : Bool) :
    Number.readDecimal negative (d.positional ['.', '0']) =
      some (Double.ofDecimal negative d.value (d.point - d.chars.length)) := by
  have hplaces : ∀ c ∈ zeros (-d.point) ++ d.chars, c.isDigit = true := by
    intro c hc
    exact (List.mem_append.1 hc).elim isDigit_of_mem_zeros (hd.digits c)
  have hwhole : ∀ c ∈ ['0'], c.isDigit = true := List.forall_mem_singleton.2 rfl
  have hread := Number.readDecimal_fixed negative hwhole hplaces (List.cons_ne_nil _ _)
  have hvalue : Nat.ofDigitChars 10 (['0'] ++ (zeros (-d.point) ++ d.chars)) 0 = d.value := by
    rw [Nat.ofDigitChars_append, Nat.ofDigitChars_append, zeros, Nat.ofDigitChars_replicate_zero]
    rfl
  have hlength : -((zeros (-d.point) ++ d.chars).length : Int) = d.point - d.chars.length := by
    rw [List.length_append, zeros, List.length_replicate]
    omega
  rw [hvalue, hlength] at hread
  rw [positional, if_pos hpoint]
  exact hread

private theorem readDecimal_positional_whole (hd : d.Proper) (hpoint : 0 < d.point) (hlong : d.chars.length ≤ d.point.toNat)
    (negative : Bool) :
    Number.readDecimal negative (d.positional ['.', '0']) =
      some (Double.ofDecimal negative d.value (d.point - d.chars.length)) := by
  obtain ⟨k, hk⟩ : ∃ k : Nat, d.point - d.chars.length = k := Int.eq_ofNat_of_zero_le (by omega)
  have hwhole : ∀ c ∈ d.chars ++ zeros k, c.isDigit = true := by
    intro c hc
    exact (List.mem_append.1 hc).elim (hd.digits c) isDigit_of_mem_zeros
  have hplaces : ∀ c ∈ ['0'], c.isDigit = true := List.forall_mem_singleton.2 rfl
  have hne : (d.chars ++ zeros k) ++ ['0'] ≠ [] := List.append_ne_nil_of_right_ne_nil _ (List.cons_ne_nil _ _)
  have hread := Number.readDecimal_fixed negative hwhole hplaces hne
  have hvalue : Nat.ofDigitChars 10 ((d.chars ++ zeros k) ++ ['0']) 0 = d.value * 10 ^ (k + 1) := by
    rw [Nat.ofDigitChars_append, Nat.ofDigitChars_append, zeros, Int.toNat_natCast, Nat.ofDigitChars_replicate_zero,
      ← value, Nat.pow_succ, Nat.mul_comm (10 ^ k), ← Nat.mul_assoc, Nat.mul_comm _ 10]
    rfl
  have hexponent : -(['0'].length : Int) = (k : Int) - ((k + 1 : Nat) : Int) := by
    rw [List.length_singleton]
    omega
  rw [positional, if_neg (by omega), if_pos hlong, hk]
  rw [hvalue, hexponent, Double.ofDecimal_mul_pow] at hread
  exact hread

private theorem readDecimal_positional_middle (hd : d.Proper) (hpoint : 0 < d.point)
    (hshort : d.point.toNat < d.chars.length)
    (negative : Bool) :
    Number.readDecimal negative (d.positional ['.', '0']) =
      some (Double.ofDecimal negative d.value (d.point - d.chars.length)) := by
  have hwhole : ∀ c ∈ d.chars.take d.point.toNat, c.isDigit = true := fun c hc => hd.digits c (List.mem_of_mem_take hc)
  have hplaces : ∀ c ∈ d.chars.drop d.point.toNat, c.isDigit = true := fun c hc => hd.digits c (List.mem_of_mem_drop hc)
  have hne : d.chars.take d.point.toNat ++ d.chars.drop d.point.toNat ≠ [] := by
    rw [List.take_append_drop]
    exact hd.nonempty
  have hread := Number.readDecimal_fixed negative hwhole hplaces hne
  have hlength : -((d.chars.drop d.point.toNat).length : Int) = d.point - d.chars.length := by
    rw [List.length_drop]
    omega
  rw [List.take_append_drop, hlength] at hread
  rw [positional, if_neg (by omega), if_neg (by omega)]
  exact hread

theorem readDecimal_positional (hd : d.Proper) (negative : Bool) :
    Number.readDecimal negative (d.positional ['.', '0']) =
      some (Double.ofDecimal negative d.value (d.point - d.chars.length)) := by
  rcases Int.lt_or_le 0 d.point with hpoint | hpoint
  · rcases Nat.lt_or_ge d.point.toNat d.chars.length with hshort | hlong
    · exact readDecimal_positional_middle hd hpoint hshort negative
    · exact readDecimal_positional_whole hd hpoint hlong negative
  · exact readDecimal_positional_fraction hd hpoint negative

theorem readDecimal_scientific (hd : d.Proper) (negative : Bool) :
    Number.readDecimal negative (d.scientific [] Number.writeInt) =
      some (Double.ofDecimal negative d.value (d.point - d.chars.length)) := by
  have hread := Number.readInt_writeInt (d.point - 1)
  cases hchars : d.chars with
  | nil => exact absurd hchars hd.nonempty
  | cons first others =>
    have hdigits := hd.digits
    rw [hchars] at hdigits
    have hfirst : ∀ c ∈ [first], c.isDigit = true := by
      intro c hc
      exact hdigits c (List.mem_cons.2 (.inl (List.mem_singleton.1 hc)))
    cases others with
    | nil =>
      have h := Number.readDecimal_exponent negative hfirst (List.cons_ne_nil _ _) hread
      simpa [scientific, hchars, value] using h
    | cons second others =>
      have hplaces : ∀ c ∈ second :: others, c.isDigit = true := fun c hc => hdigits c (List.mem_cons_of_mem _ hc)
      have hmark : ∀ c ∈ ('e' :: Number.writeInt (d.point - 1)).head?, c.isDigit = false := by
        intro c hc
        cases hc
        rfl
      have hexponent : Number.readExponent ('e' :: Number.writeInt (d.point - 1)) = some (d.point - 1) := by
        rw [Number.readExponent]
        exact hread
      have h := Number.readDecimal_point negative hfirst hplaces (List.cons_ne_nil _ _) hmark hexponent
      have hlength : d.point - 1 - ((second :: others).length : Int) =
          d.point - ((first :: second :: others).length : Int) := by
        simp only [List.length_cons]
        omega
      rw [hlength] at h
      simpa [scientific, hchars, value] using h

theorem readDecimal_literalChars (hd : d.Proper) (negative : Bool) :
    Number.readDecimal negative (Double.literalChars d) =
      some (Double.ofDecimal negative d.value (d.point - d.chars.length)) := by
  rw [Double.literalChars]
  split
  · exact readDecimal_positional hd negative
  · exact readDecimal_scientific hd negative

/-! ### Digits of words -/

/-- A number without the zeros at its end, which move into the position of the point. -/
theorem ofScaled_spec {n : Nat} (hn : 0 < n) (e : Int) :
    (ofScaled n e).Proper ∧ ∀ negative, Double.ofDecimal negative (ofScaled n e).value
      ((ofScaled n e).point - (ofScaled n e).chars.length) = Double.ofDecimal negative n e := by
  set kept := ((Nat.toDigits 10 n).reverse.dropWhile (· == '0')).reverse with hkept
  set dropped := ((Nat.toDigits 10 n).reverse.takeWhile (· == '0')).length with hdropped
  have hsplit : Nat.toDigits 10 n = kept ++ List.replicate dropped '0' := by
    have hzeros : (Nat.toDigits 10 n).reverse.takeWhile (· == '0') = List.replicate dropped '0' :=
      List.eq_replicate_iff.2 ⟨rfl, fun c hc => eq_of_beq (List.all_eq_true.1 List.all_takeWhile c hc)⟩
    rw [hkept, ← List.reverse_replicate, ← List.reverse_append, ← hzeros, List.takeWhile_append_dropWhile,
      List.reverse_reverse]
  have hn' : n = Nat.ofDigitChars 10 kept 0 * 10 ^ dropped := by
    conv_lhs => rw [← Nat.ofDigitChars_ten_toDigits (n := n), hsplit]
    rw [Nat.ofDigitChars_append, Nat.ofDigitChars_replicate_zero, Nat.mul_comm]
  have hproper : (ofScaled n e).Proper := by
    constructor
    · intro hnil
      change kept = [] at hnil
      rw [hnil, Nat.ofDigitChars_nil, Nat.zero_mul] at hn'
      omega
    · intro c hc
      apply Number.isDigit_of_mem_toDigits (n := n)
      rw [hsplit]
      exact List.mem_append_left _ hc
  refine ⟨hproper, fun negative => ?_⟩
  have hpoint : (ofScaled n e).point - ((ofScaled n e).chars.length : Int) = e + dropped := by
    change ((Nat.toDigits 10 n).length : Int) + e - (kept.length : Int) = e + dropped
    rw [hsplit, List.length_append, List.length_replicate]
    push_cast
    ring
  have hexponent : e = e + dropped - (dropped : Nat) := by omega
  rw [hpoint, value]
  change Double.ofDecimal negative (Nat.ofDigitChars 10 kept 0) (e + dropped) = _
  conv_rhs => rw [hn', hexponent]
  exact (Double.ofDecimal_mul_pow negative _ dropped _).symm

end Digits

namespace Double

variable {d : Double}

theorem isZero_iff : d.isZero = true ↔ d.word % signBit = 0 := by
  rw [word_eq_magnitude, isZero, Bool.and_eq_true, beq_iff_eq, beq_iff_eq, Nat.add_eq_zero_iff, Nat.mul_eq_zero]
  simp [leadingBit]

/-- The digits of a word are a number that rounds to the word. -/
theorem digits_spec (hfinite : d.isFinite = true) :
    d.digits.Proper ∧ ofDecimal d.negative d.digits.value (d.digits.point - d.digits.chars.length) = d := by
  rw [digits]
  split
  · next hzero =>
    refine ⟨⟨List.cons_ne_nil _ _, List.forall_mem_singleton.2 rfl⟩, ?_⟩
    conv_rhs => rw [d.eq_ofMagnitude, isZero_iff.1 hzero]
    rfl
  · next hzero =>
    have hread := ofDecimal_shortestDecimal hfinite (Bool.eq_false_iff.2 hzero)
    have hpos : 0 < d.shortestDecimal.1 := by
      rcases Nat.eq_zero_or_pos d.shortestDecimal.1 with h0 | hpos
      · rw [h0, ofDecimal, if_pos rfl] at hread
        have hword : d.isZero = true := by
          rw [← hread]
          cases d.negative <;> decide
        exact absurd hword hzero
      · exact hpos
    obtain ⟨hproper, hvalue⟩ := Digits.ofScaled_spec hpos d.shortestDecimal.2
    exact ⟨hproper, (hvalue d.negative).trans hread⟩

/-- The literal of a finite word, after its sign, reads back as the word. -/
theorem readDecimal_literalChars (hfinite : d.isFinite = true) :
    Number.readDecimal d.negative (literalChars d.digits) = some d := by
  obtain ⟨hproper, hvalue⟩ := digits_spec hfinite
  rw [Digits.readDecimal_literalChars hproper, hvalue]

theorem literal_toList (hfinite : d.isFinite = true) :
    d.literal.toList = if d.negative then '-' :: literalChars d.digits else literalChars d.digits := by
  have hnan : d.isNaN = false := by simp [isNaN, hfinite]
  simp only [literal, withSign, hnan, hfinite, Bool.false_eq_true, if_false, if_true, String.toList_ofList]

end Double

end ObjectStore
