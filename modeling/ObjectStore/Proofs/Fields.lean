import Mathlib.Data.List.Infix
import Mathlib.Data.List.Nodup
import ObjectStore.Value.Basic

/-!
# Fields in the order in which they were first set

A list of named values in which every name stands once, at the place where it was first set. What is found under a name is what was set there last. So after any sequence of settings the names are the first appearances among the names that were set.
-/

namespace ObjectStore

/-! ### First appearances -/

theorem eraseDups_concat {α : Type} [BEq α] [LawfulBEq α] [DecidableEq α] {as : List α} {a : α} :
    (as ++ [a]).eraseDups = if a ∈ as then as.eraseDups else as.eraseDups ++ [a] := by
  rw [List.eraseDups_append]
  split
  · next hmem => simp [List.removeAll, hmem]
  · next hmem => simp [List.removeAll, hmem, List.eraseDups_cons]

theorem nodup_eraseDups {α : Type} [BEq α] [LawfulBEq α] [DecidableEq α] (as : List α) : as.eraseDups.Nodup := by
  induction as using List.reverseRecOn with
  | nil => exact List.nodup_nil
  | append_singleton as a ih =>
    rw [eraseDups_concat]
    split
    · exact ih
    · next hmem =>
      rw [List.nodup_append_comm, List.singleton_append, List.nodup_cons, List.mem_eraseDups]
      exact ⟨hmem, ih⟩

namespace Fields

variable {α : Type} {name : String} {value : α} {fields : List (String × α)}

/-! ### One setting -/

theorem lookup_set_self (name : String) (value : α) (fields : List (String × α)) :
    (set name value fields).lookup name = some value := by
  induction fields with
  | nil => rw [set, List.lookup_cons_self]
  | cons field fields ih =>
    obtain ⟨other, old⟩ := field
    rw [set]
    split
    · next hname => rw [hname, List.lookup_cons_self]
    · next hname => rwa [List.lookup_cons, beq_false_of_ne (Ne.symm hname)]

theorem lookup_set_of_ne {name other : String} (h : other ≠ name) (value : α) (fields : List (String × α)) :
    (set name value fields).lookup other = fields.lookup other := by
  induction fields with
  | nil => rw [set, List.lookup_cons, beq_false_of_ne h]
  | cons field fields ih =>
    obtain ⟨first, old⟩ := field
    rw [set]
    split
    · next hname =>
      subst hname
      rw [List.lookup_cons, List.lookup_cons, beq_false_of_ne h]
    · rw [List.lookup_cons, List.lookup_cons, ih]

theorem names_set (name : String) (value : α) (fields : List (String × α)) :
    names (set name value fields) = if name ∈ names fields then names fields else names fields ++ [name] := by
  induction fields with
  | nil => rfl
  | cons field fields ih =>
    obtain ⟨first, old⟩ := field
    rw [set]
    by_cases hname : first = name
    · simp [names, hname]
    · have hmem : name ∈ names ((first, old) :: fields) ↔ name ∈ names fields := by
        simp [names, Ne.symm hname]
      rw [if_neg hname]
      simp only [hmem]
      change first :: names (set name value fields) = _
      rw [ih]
      split <;> rfl

theorem mem_names_iff : name ∈ names fields ↔ ∃ value, fields.lookup name = some value := by
  induction fields with
  | nil => simp [names]
  | cons field fields ih =>
    obtain ⟨first, old⟩ := field
    by_cases hname : name = first
    · simp [names, hname]
    · rw [List.lookup_cons, beq_false_of_ne hname, ← ih]
      simp [names, hname]

theorem lookup_eq_none_iff : fields.lookup name = none ↔ name ∉ names fields := by
  rw [mem_names_iff, Option.eq_none_iff_forall_ne_some, not_exists]

theorem nodup_set (name : String) (value : α) (h : (names fields).Nodup) : (names (set name value fields)).Nodup := by
  rw [names_set]
  split
  · exact h
  · next hname =>
    rw [List.nodup_append_comm, List.singleton_append, List.nodup_cons]
    exact ⟨hname, h⟩

theorem eq_or_mem_of_mem_set {field : String × α} (h : field ∈ set name value fields) :
    field = (name, value) ∨ field ∈ fields := by
  induction fields with
  | nil => exact .inl (List.mem_singleton.1 h)
  | cons first fields ih =>
    rw [set] at h
    split at h
    · next hname =>
      subst hname
      exact (List.mem_cons.1 h).imp_right (List.mem_cons_of_mem _)
    · rcases List.mem_cons.1 h with rfl | h
      · exact .inr List.mem_cons_self
      · exact (ih h).imp_right (List.mem_cons_of_mem _)

theorem set_of_not_mem (h : name ∉ fields.map Prod.fst) (value : α) : set name value fields = fields ++ [(name, value)] := by
  induction fields with
  | nil => rfl
  | cons field fields ih =>
    rw [List.map_cons, List.mem_cons, not_or] at h
    rw [set, if_neg (Ne.symm h.1), ih h.2, List.cons_append]

theorem set_of_lookup (h : fields.lookup name = some value) : set name value fields = fields := by
  induction fields with
  | nil => simp at h
  | cons field fields ih =>
    obtain ⟨first, old⟩ := field
    rw [set]
    by_cases hname : name = first
    · subst hname
      rw [List.lookup_cons_self, Option.some.injEq] at h
      rw [if_pos rfl, h]
    · rw [List.lookup_cons, beq_false_of_ne hname] at h
      rw [if_neg (Ne.symm hname), ih h]

theorem set_set (name : String) (value later : α) (fields : List (String × α)) :
    set name later (set name value fields) = set name later fields := by
  induction fields with
  | nil => simp [set]
  | cons field fields ih =>
    obtain ⟨first, old⟩ := field
    rw [set, set]
    by_cases hname : first = name
    · rw [if_pos hname, if_pos hname, set, if_pos hname]
    · rw [if_neg hname, if_neg hname, set, if_neg hname, ih]

/-- Among distinct names, the value of a name is the one that stands beside it. -/
theorem lookup_of_mem (hnodup : (fields.map Prod.fst).Nodup) {field : String × α} (h : field ∈ fields) :
    fields.lookup field.1 = some field.2 := by
  obtain ⟨before, after, rfl⟩ := List.append_of_mem h
  refine List.lookup_eq_some_iff.2 ⟨before, after, rfl, fun other hother => bne_iff_ne.2 fun heq => ?_⟩
  rw [List.map_append, List.map_cons, List.nodup_middle, List.nodup_cons, heq] at hnodup
  exact hnodup.1 (List.mem_append_left _ (List.mem_map_of_mem hother))

theorem mem_of_lookup (h : fields.lookup name = some value) : (name, value) ∈ fields := by
  obtain ⟨before, after, rfl, -⟩ := List.lookup_eq_some_iff.1 h
  exact List.mem_append_right _ List.mem_cons_self

/-! ### Many settings -/

/-- The fields that come about when named values are set one after the other. -/
def ofSettings (settings : List (String × α)) : List (String × α) :=
  settings.foldl (fun fields setting => set setting.1 setting.2 fields) []

theorem ofSettings_append (settings more : List (String × α)) :
    ofSettings (settings ++ more) = more.foldl (fun fields setting => set setting.1 setting.2 fields) (ofSettings settings) := by
  rw [ofSettings, List.foldl_append, ← ofSettings]

theorem ofSettings_concat (settings : List (String × α)) (setting : String × α) :
    ofSettings (settings ++ [setting]) = set setting.1 setting.2 (ofSettings settings) := by
  rw [ofSettings_append, List.foldl_cons, List.foldl_nil]

/-- A name stands where it was first set. -/
theorem names_ofSettings (settings : List (String × α)) : names (ofSettings settings) = (names settings).eraseDups := by
  induction settings using List.reverseRecOn with
  | nil => rfl
  | append_singleton settings setting ih =>
    have hnames : names (settings ++ [setting]) = names settings ++ [setting.1] := List.map_append
    rw [ofSettings_concat, names_set, ih, hnames, eraseDups_concat]
    simp only [List.mem_eraseDups]

theorem lookup_ofSettings (settings : List (String × α)) (name : String) :
    (ofSettings settings).lookup name = settings.reverse.lookup name := by
  induction settings using List.reverseRecOn with
  | nil => rfl
  | append_singleton settings setting ih =>
    obtain ⟨last, value⟩ := setting
    rw [ofSettings_concat, List.reverse_append, List.reverse_singleton, List.singleton_append, List.lookup_cons]
    by_cases hname : name = last
    · rw [hname, lookup_set_self, beq_self_eq_true]
    · rw [lookup_set_of_ne hname, ih, beq_false_of_ne hname]

end Fields

end ObjectStore
