import ObjectStore.Sql.Identifier

/-!
# Identifiers

Names that pass the check for a statement are unchanged, and what is appended to an identifier in its own characters gives an identifier again.
-/

namespace ObjectStore

namespace Text

theorem isIdentifierPart_of_mem {s : String} (h : isIdentifier s = true) {c : Char} (hc : c ∈ s.toList) :
    isIdentifierPart c = true := by
  rw [isIdentifier] at h
  cases hlist : s.toList with
  | nil =>
    rw [hlist] at hc
    cases hc
  | cons first rest =>
    rw [hlist] at h hc
    rw [isIdentifierChars, Bool.and_eq_true, List.all_eq_true] at h
    rcases List.mem_cons.1 hc with rfl | hc
    · have hstart := h.1
      rw [isIdentifierStart, Bool.or_eq_true] at hstart
      rw [isIdentifierPart, Char.isAlphanum, Bool.or_eq_true, Bool.or_eq_true]
      exact hstart.imp .inl id
    · exact h.2 c hc

theorem isIdentifier_append {a b : String} (ha : isIdentifier a = true) (hb : ∀ c ∈ b.toList, isIdentifierPart c = true) :
    isIdentifier (a ++ b) = true := by
  rw [isIdentifier] at ha
  rw [isIdentifier, String.toList_append]
  cases hlist : a.toList with
  | nil =>
    rw [hlist] at ha
    cases ha
  | cons first rest =>
    rw [hlist] at ha
    rw [isIdentifierChars, Bool.and_eq_true, List.all_eq_true] at ha
    rw [List.cons_append, isIdentifierChars, ha.1, Bool.true_and, List.all_append, Bool.and_eq_true, List.all_eq_true,
      List.all_eq_true]
    exact ⟨ha.2, hb⟩

end Text

theorem checkIdentifier_eq_ok {name checked : String} (h : checkIdentifier name = .ok checked) :
    Text.isIdentifier name = true ∧ checked = name := by
  rw [checkIdentifier] at h
  split at h
  · next hname => exact ⟨hname, (Except.ok.inj h).symm⟩
  · cases h

theorem checkIdentifier_eq_error {name : String} {e : CompileError} (h : checkIdentifier name = .error e) :
    Text.isIdentifier name = false ∧ e = .invalidIdentifier name := by
  rw [checkIdentifier] at h
  split at h
  · cases h
  · next hname => exact ⟨Bool.eq_false_iff.2 hname, (Except.error.inj h).symm⟩

/-- The column of a key field is the field, but for the one that identifies a record. -/
theorem keyColumn_eq_ok {field column : String} (h : keyColumn field = .ok column) :
    Text.isIdentifier column = true ∧ column = if Text.sameName field idField then idColumn else field := by
  rw [keyColumn] at h
  split at h
  · next hid =>
    cases h
    rw [if_pos hid]
    exact ⟨by decide, rfl⟩
  · next hid =>
    rw [if_neg hid]
    obtain ⟨hname, rfl⟩ := checkIdentifier_eq_ok h
    exact ⟨hname, rfl⟩

end ObjectStore
