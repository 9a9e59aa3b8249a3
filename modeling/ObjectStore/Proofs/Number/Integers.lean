import ObjectStore.Proofs.Number.Literal

/-!
# Texts of integers

An integer is read from a text that spells it, with blanks around it or without, and from no other. The number is checked to have 64 bits when all its digits have been read, so none is ever taken for another one that wraps around to it.
-/

namespace ObjectStore

/-! ### Blanks -/

namespace Text

variable {cs before after : List Char}

theorem dropWhile_isBlank_append (hbefore : ∀ c ∈ before, isBlank c = true) (hcs : ∀ c ∈ cs.head?, isBlank c = false) :
    (before ++ cs).dropWhile isBlank = cs := by
  rw [List.dropWhile_append_of_pos hbefore]
  cases cs with
  | nil => rfl
  | cons c cs =>
    have hc : isBlank c = false := hcs c rfl
    rw [List.dropWhile_cons_of_neg (by simp [hc])]

theorem trim_around (hbefore : ∀ c ∈ before, isBlank c = true) (hafter : ∀ c ∈ after, isBlank c = true)
    (hne : cs ≠ []) (hcs : ∀ c ∈ cs, isBlank c = false) : trim (before ++ cs ++ after) = cs := by
  have hfirst : (before ++ (cs ++ after)).dropWhile isBlank = cs ++ after := by
    apply dropWhile_isBlank_append hbefore
    intro c hc
    rw [List.head?_append_of_ne_nil _ hne] at hc
    exact hcs c (List.mem_of_mem_head? hc)
  have hlast : (after.reverse ++ cs.reverse).dropWhile isBlank = cs.reverse := by
    apply dropWhile_isBlank_append
    · exact fun c hc => hafter c (List.mem_reverse.1 hc)
    · intro c hc
      exact hcs c (List.mem_reverse.1 (List.mem_of_mem_head? hc))
  rw [trim, List.append_assoc, hfirst, List.reverse_append, hlast, List.reverse_reverse]

theorem exists_around_trim (cs : List Char) : ∃ before after, cs = before ++ trim cs ++ after ∧
    (∀ c ∈ before, isBlank c = true) ∧ ∀ c ∈ after, isBlank c = true := by
  set rest := cs.dropWhile isBlank with hrest
  refine ⟨cs.takeWhile isBlank, (rest.reverse.takeWhile isBlank).reverse, ?_, ?_, ?_⟩
  · have hsplit : rest = trim cs ++ (rest.reverse.takeWhile isBlank).reverse := by
      rw [trim, ← hrest, ← List.reverse_append, List.takeWhile_append_dropWhile, List.reverse_reverse]
    rw [List.append_assoc, ← hsplit, hrest, List.takeWhile_append_dropWhile]
  · exact fun c hc => List.all_eq_true.1 List.all_takeWhile c hc
  · exact fun c hc => List.all_eq_true.1 List.all_takeWhile c (List.mem_reverse.1 hc)

theorem isBlank_of_isDigit {c : Char} (h : c.isDigit = true) : isBlank c = false := by
  simp only [Char.isDigit, Bool.and_eq_true, decide_eq_true_eq] at h
  have hlow : 48 ≤ c.toNat := h.1
  have hhigh : c.toNat ≤ 57 := h.2
  simp only [isBlank, Bool.or_eq_false_iff, beq_eq_false_iff_ne, Bool.and_eq_false_iff, decide_eq_false_iff_not]
  omega

end Text

namespace Number

/-! ### Spelling -/

/-- What may stand before the digits of an integer, and what becomes of their value. -/
inductive Signed : List Char → Nat → Int → Prop where
  | unsigned (m : Nat) : Signed [] m m
  | plus (m : Nat) : Signed ['+'] m m
  | minus (m : Nat) : Signed ['-'] m (-m)

/-- At most one sign and then digits, at least one, which have the value `n`. -/
def Spells (cs : List Char) (n : Int) : Prop :=
  ∃ sign digits, cs = sign ++ digits ∧ digits ≠ [] ∧ (∀ c ∈ digits, c.isDigit = true) ∧
    Signed sign (Nat.ofDigitChars 10 digits 0) n

/-- The text spells the number between blanks. -/
def Denotes (s : String) (n : Int) : Prop :=
  ∃ before cs after, s.toList = before ++ cs ++ after ∧ (∀ c ∈ before, Text.isBlank c = true) ∧
    (∀ c ∈ after, Text.isBlank c = true) ∧ Spells cs n

/-- The number has 64 bits. -/
def InRange (n : Int) : Prop := -2 ^ 63 ≤ n ∧ n ≤ 2 ^ 63 - 1

/-- The number with the magnitude `m` and the sign that was read. -/
def signed (negative : Bool) (m : Nat) : Int := if negative then -(m : Int) else m

variable {cs digits : List Char} {n : Int}

theorem readNat_eq_some_iff {m : Nat} :
    readNat digits = some m ↔ digits ≠ [] ∧ (∀ c ∈ digits, c.isDigit = true) ∧ Nat.ofDigitChars 10 digits 0 = m := by
  rw [readNat, Option.ite_none_right_eq_some, Bool.and_eq_true, Bool.not_eq_true', List.isEmpty_eq_false_iff, List.all_eq_true,
    Option.some.injEq, and_assoc]

theorem Signed.readSign {sign : List Char} {m : Nat} (h : Signed sign m n) (hdigits : ∀ c ∈ digits, c.isDigit = true) :
    ∃ negative, Number.readSign (sign ++ digits) = (negative, digits) ∧ n = signed negative m := by
  cases h with
  | unsigned =>
    refine ⟨false, ?_, rfl⟩
    cases digits with
    | nil => rfl
    | cons c digits => exact readSign_of_digit (hdigits c List.mem_cons_self) digits
  | plus => exact ⟨false, rfl, rfl⟩
  | minus => exact ⟨true, rfl, rfl⟩

theorem exists_signed (cs : List Char) :
    ∃ sign, cs = sign ++ (readSign cs).2 ∧ ∀ m, Signed sign m (signed (readSign cs).1 m) := by
  unfold readSign
  split
  · exact ⟨['-'], rfl, .minus⟩
  · exact ⟨['+'], rfl, .plus⟩
  · exact ⟨[], rfl, .unsigned⟩

theorem readInt_eq (cs : List Char) : readInt cs = (readNat (readSign cs).2).map (signed (readSign cs).1) := by
  rw [readInt]
  generalize readSign cs = read
  obtain ⟨negative, digits⟩ := read
  cases hread : readNat digits <;> simp [hread, signed]

theorem readInt_eq_some_iff : readInt cs = some n ↔ Spells cs n := by
  rw [readInt_eq]
  constructor
  · intro h
    obtain ⟨m, hm, rfl⟩ := Option.map_eq_some_iff.1 h
    obtain ⟨hne, hdigits, rfl⟩ := readNat_eq_some_iff.1 hm
    obtain ⟨sign, hcs, hsigned⟩ := exists_signed cs
    exact ⟨sign, (readSign cs).2, hcs, hne, hdigits, hsigned _⟩
  · rintro ⟨sign, digits, rfl, hne, hdigits, hsigned⟩
    obtain ⟨negative, hsign, rfl⟩ := hsigned.readSign hdigits
    rw [hsign, readNat_of_digits hne hdigits, Option.map_some]

theorem int64?_eq_some_iff {m : Int64} : int64? n = some m ↔ m.toInt = n := by
  constructor
  · intro h
    rw [int64?, Option.ite_none_right_eq_some, Bool.and_eq_true, decide_eq_true_eq, decide_eq_true_eq] at h
    obtain ⟨hrange, hm⟩ := h
    rw [← Option.some.inj hm]
    exact Int64.toInt_ofInt_of_le hrange.1 hrange.2
  · rintro rfl
    exact int64?_toInt m

theorem int64?_isSome_iff : (int64? n).isSome = true ↔ InRange n := by
  rw [int64?, InRange]
  split
  · next h =>
    rw [Bool.and_eq_true, decide_eq_true_eq, decide_eq_true_eq] at h
    simp only [Option.isSome_some, true_iff]
    omega
  · next h =>
    rw [Bool.and_eq_true, decide_eq_true_eq, decide_eq_true_eq] at h
    simp only [Option.isSome_none, Bool.false_eq_true, false_iff]
    omega

theorem InRange.exists_word (h : InRange n) : ∃ m : Int64, m.toInt = n := by
  obtain ⟨m, hm⟩ := Option.isSome_iff_exists.1 (int64?_isSome_iff.2 h)
  exact ⟨m, int64?_eq_some_iff.1 hm⟩

theorem inRange_toInt (m : Int64) : InRange m.toInt := by
  rw [← int64?_isSome_iff, int64?_toInt]
  rfl

theorem readInt64_eq_some_iff {m : Int64} : readInt64 cs = some m ↔ Spells cs m.toInt := by
  rw [readInt64_eq, Option.bind_eq_some_iff]
  constructor
  · rintro ⟨n, hread, hword⟩
    rw [int64?_eq_some_iff.1 hword]
    exact readInt_eq_some_iff.1 hread
  · intro h
    exact ⟨m.toInt, readInt_eq_some_iff.2 h, int64?_toInt m⟩

theorem Spells.ne_nil (h : Spells cs n) : cs ≠ [] := by
  obtain ⟨sign, digits, rfl, hne, -, -⟩ := h
  exact List.append_ne_nil_of_right_ne_nil sign hne

theorem Spells.not_blank (h : Spells cs n) : ∀ c ∈ cs, Text.isBlank c = false := by
  obtain ⟨sign, digits, rfl, -, hdigits, hsigned⟩ := h
  intro c hc
  rcases List.mem_append.1 hc with hsign | hdigit
  · cases hsigned with
    | unsigned => exact absurd hsign List.not_mem_nil
    | plus =>
      rw [List.mem_singleton.1 hsign]
      rfl
    | minus =>
      rw [List.mem_singleton.1 hsign]
      rfl
  · exact Text.isBlank_of_isDigit (hdigits c hdigit)

theorem readInt64_trim_eq_some_iff {s : String} {m : Int64} :
    readInt64 (Text.trim s.toList) = some m ↔ Denotes s m.toInt := by
  rw [readInt64_eq_some_iff]
  constructor
  · intro h
    obtain ⟨before, after, hs, hbefore, hafter⟩ := Text.exists_around_trim s.toList
    exact ⟨before, _, after, hs, hbefore, hafter, h⟩
  · rintro ⟨before, cs, after, hs, hbefore, hafter, h⟩
    rw [hs, Text.trim_around hbefore hafter h.ne_nil h.not_blank]
    exact h

/-- Written out, an integer has no blanks around it. -/
theorem readInt64_trim_writeInt (n : Int64) :
    readInt64 (Text.trim (String.ofList (writeInt n.toInt)).toList) = some n := by
  refine readInt64_trim_eq_some_iff.2 ⟨[], writeInt n.toInt, [], ?_, ?_, ?_, ?_⟩
  · rw [String.toList_ofList, List.nil_append, List.append_nil]
  · exact fun c hc => absurd hc List.not_mem_nil
  · exact fun c hc => absurd hc List.not_mem_nil
  · exact readInt64_eq_some_iff.1 (readInt64_writeInt n)

/-- The integers that are read are those that have 64 bits. -/
theorem exists_readInt64_trim_iff {s : String} :
    (∃ m : Int64, m.toInt = n ∧ readInt64 (Text.trim s.toList) = some m) ↔ Denotes s n ∧ InRange n := by
  constructor
  · rintro ⟨m, rfl, hread⟩
    exact ⟨readInt64_trim_eq_some_iff.1 hread, inRange_toInt m⟩
  · rintro ⟨hdenotes, hrange⟩
    obtain ⟨m, rfl⟩ := hrange.exists_word
    exact ⟨m, rfl, readInt64_trim_eq_some_iff.2 hdenotes⟩

end Number

end ObjectStore
