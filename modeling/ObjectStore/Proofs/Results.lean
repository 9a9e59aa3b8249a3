import Mathlib.Data.List.Forall2

/-!
# Results of steps that can fail

A sequence of steps has a result exactly if every step has one. What a compiler does is read off such sequences here.
-/

namespace ObjectStore

variable {ε ε' α β : Type}

theorem bind_eq_ok {x : Except ε α} {f : α → Except ε β} {b : β} :
    (x >>= f) = .ok b ↔ ∃ a, x = .ok a ∧ f a = .ok b := by
  cases x with
  | error e => simp [bind, Except.bind]
  | ok a => simp [bind, Except.bind]

theorem map_eq_ok {x : Except ε α} {f : α → β} {b : β} : x.map f = .ok b ↔ ∃ a, x = .ok a ∧ f a = b := by
  cases x with
  | error e => simp [Except.map]
  | ok a => simp [Except.map]

theorem map_eq_error {x : Except ε α} {f : α → β} {e : ε} : x.map f = .error e ↔ x = .error e := by
  cases x with
  | error e' => simp [Except.map]
  | ok a => simp [Except.map]

theorem mapError_eq_ok {x : Except ε α} {f : ε → ε'} {a : α} : x.mapError f = .ok a ↔ x = .ok a := by
  cases x with
  | error e => simp [Except.mapError]
  | ok a' => simp [Except.mapError]

theorem bind_eq_error {x : Except ε α} {f : α → Except ε β} {e : ε} :
    (x >>= f) = .error e ↔ x = .error e ∨ ∃ a, x = .ok a ∧ f a = .error e := by
  cases x with
  | error e' => simp [bind, Except.bind]
  | ok a => simp [bind, Except.bind]

/-- Whatever the first of two computations results in, the second one results in as well. -/
def Keeps (x y : Except ε α) : Prop := ∀ a, x = .ok a → y = .ok a

theorem Keeps.refl (x : Except ε α) : Keeps x x := fun _ h => h

theorem Keeps.bind {x y : Except ε α} {f g : α → Except ε β} (h : Keeps x y) (hrest : ∀ a, Keeps (f a) (g a)) :
    Keeps (x >>= f) (y >>= g) := by
  intro b hb
  obtain ⟨a, ha, hb⟩ := bind_eq_ok.1 hb
  exact bind_eq_ok.2 ⟨a, h a ha, hrest a b hb⟩

theorem forall₂_of_mapM {f : α → Except ε β} {as : List α} {bs : List β} (h : as.mapM f = .ok bs) :
    List.Forall₂ (fun a b => f a = .ok b) as bs := by
  induction as generalizing bs with
  | nil =>
    cases h
    exact .nil
  | cons a as ih =>
    rw [List.mapM_cons, bind_eq_ok] at h
    obtain ⟨b, hb, h⟩ := h
    obtain ⟨rest, hrest, h⟩ := bind_eq_ok.1 h
    cases h
    exact .cons hb (ih hrest)

theorem exists_mapM_eq_ok {f : α → Except ε β} {as : List α} (h : ∀ a ∈ as, ∃ b, f a = .ok b) : ∃ bs, as.mapM f = .ok bs := by
  induction as with
  | nil => exact ⟨[], rfl⟩
  | cons a as ih =>
    obtain ⟨⟨b, hb⟩, hrest⟩ := List.forall_mem_cons.1 h
    obtain ⟨bs, hbs⟩ := ih hrest
    rw [List.mapM_cons]
    exact ⟨b :: bs, bind_eq_ok.2 ⟨b, hb, bind_eq_ok.2 ⟨bs, hbs, rfl⟩⟩⟩

theorem mapM_append_eq_ok {f : α → Except ε β} {as as' : List α} {bs bs' : List β} (h : as.mapM f = .ok bs)
    (h' : as'.mapM f = .ok bs') : (as ++ as').mapM f = .ok (bs ++ bs') := by
  rw [List.mapM_append]
  exact bind_eq_ok.2 ⟨bs, h, bind_eq_ok.2 ⟨bs', h', rfl⟩⟩

theorem mapM_eq_error {f : α → Except ε β} {before after : List α} {a : α} {e : ε}
    (hbefore : ∀ earlier ∈ before, ∃ b, f earlier = .ok b) (ha : f a = .error e) :
    (before ++ a :: after).mapM f = .error e := by
  induction before with
  | nil =>
    rw [List.nil_append, List.mapM_cons]
    exact bind_eq_error.2 (.inl ha)
  | cons first before ih =>
    obtain ⟨⟨b, hb⟩, hrest⟩ := List.forall_mem_cons.1 hbefore
    rw [List.cons_append, List.mapM_cons]
    exact bind_eq_error.2 (.inr ⟨b, hb, bind_eq_error.2 (.inl (ih hrest))⟩)

/-- Every element of a list has a result, or there is a first one without. -/
theorem all_ok_or_first_error (f : α → Except ε β) (as : List α) : (∀ a ∈ as, ∃ b, f a = .ok b) ∨
    ∃ before a after e, as = before ++ a :: after ∧ (∀ earlier ∈ before, ∃ b, f earlier = .ok b) ∧ f a = .error e := by
  induction as with
  | nil => exact .inl fun _ hmem => absurd hmem List.not_mem_nil
  | cons a as ih =>
    cases ha : f a with
    | error e => exact .inr ⟨[], a, as, e, rfl, fun _ hmem => absurd hmem List.not_mem_nil, ha⟩
    | ok b =>
      rcases ih with hall | ⟨before, first, after, e, rfl, hbefore, hfirst⟩
      · exact .inl (List.forall_mem_cons.2 ⟨⟨b, ha⟩, hall⟩)
      · exact .inr ⟨a :: before, first, after, e, rfl, List.forall_mem_cons.2 ⟨⟨b, ha⟩, hbefore⟩, hfirst⟩

theorem exists_of_mapM_eq_error {f : α → Except ε β} {as : List α} {e : ε} (h : as.mapM f = .error e) :
    ∃ a ∈ as, f a = .error e := by
  rcases all_ok_or_first_error f as with hall | ⟨before, a, after, e', rfl, hbefore, ha⟩
  · obtain ⟨bs, hbs⟩ := exists_mapM_eq_ok hall
    rw [hbs] at h
    cases h
  · rw [mapM_eq_error hbefore ha] at h
    cases h
    exact ⟨a, List.mem_append_right _ List.mem_cons_self, ha⟩

theorem exists_of_mem_forall₂ {R : α → β → Prop} {as : List α} {bs : List β} (h : List.Forall₂ R as bs) {b : β}
    (hb : b ∈ bs) : ∃ a ∈ as, R a b := by
  induction h with
  | nil => cases hb
  | cons hfirst _ ih =>
    rcases List.mem_cons.1 hb with rfl | hb
    · exact ⟨_, List.mem_cons_self, hfirst⟩
    · obtain ⟨a, ha, hrest⟩ := ih hb
      exact ⟨a, List.mem_cons_of_mem _ ha, hrest⟩

/-- Relations that agree on the elements on the right pair the same lists with these. -/
theorem forall₂_congr_of_mem {R S : α → β → Prop} {as : List α} {bs : List β} (h : ∀ b ∈ bs, ∀ a, R a b ↔ S a b) :
    List.Forall₂ R as bs ↔ List.Forall₂ S as bs := by
  induction bs generalizing as with
  | nil => rw [List.forall₂_nil_right_iff, List.forall₂_nil_right_iff]
  | cons b bs ih =>
    obtain ⟨hb, hbs⟩ := List.forall_mem_cons.1 h
    rw [List.forall₂_cons_right_iff, List.forall₂_cons_right_iff]
    exact exists_congr fun a => exists_congr fun rest => and_congr (hb a) (and_congr_left' (ih hbs))

/-- What is partnered with the same elements is partnered. -/
theorem forall₂_of_common {γ : Type} {R : α → β → Prop} {S : α → γ → Prop} {T : β → γ → Prop} {as : List α} {bs : List β}
    {cs : List γ} (hbs : List.Forall₂ R as bs) (hcs : List.Forall₂ S as cs) (h : ∀ a ∈ as, ∀ b c, R a b → S a c → T b c) :
    List.Forall₂ T bs cs := by
  induction hbs generalizing cs with
  | nil =>
    cases hcs
    exact .nil
  | cons hb _ ih =>
    obtain _ | ⟨hc, hcs⟩ := hcs
    exact .cons (h _ List.mem_cons_self _ _ hb hc) (ih hcs fun a ha => h a (List.mem_cons_of_mem _ ha))

theorem exists_of_mapM_eq_ok {f : α → Except ε β} {as : List α} {bs : List β} (h : as.mapM f = .ok bs) {a : α}
    (ha : a ∈ as) : ∃ b, f a = .ok b := by
  obtain ⟨b, -, hb⟩ := exists_of_mem_forall₂ (forall₂_of_mapM h).flip ha
  exact ⟨b, hb⟩

theorem forall₂_of_mapM_eq_some {f : α → Option β} {as : List α} {bs : List β} (h : as.mapM f = some bs) :
    List.Forall₂ (fun a b => f a = some b) as bs := by
  induction as generalizing bs with
  | nil =>
    cases h
    exact .nil
  | cons a as ih =>
    simp only [List.mapM_cons, Option.bind_eq_bind, Option.bind_eq_some_iff] at h
    obtain ⟨b, hb, rest, hrest, h⟩ := h
    cases h
    exact .cons hb (ih hrest)

theorem mapM_eq_some {f : α → Option β} {g : α → β} {as : List α} (h : ∀ a ∈ as, f a = some (g a)) :
    as.mapM f = some (as.map g) := by
  induction as with
  | nil => rfl
  | cons a as ih =>
    rw [List.mapM_cons, h a List.mem_cons_self, ih fun other hother => h other (List.mem_cons_of_mem _ hother)]
    rfl

end ObjectStore
