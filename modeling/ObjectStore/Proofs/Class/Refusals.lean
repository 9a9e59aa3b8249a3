import ObjectStore.Proofs.Class.Registries

/-!
# Refused declarations

A declaration is registered class by class, and its own class comes first. So a declaration that is refused leaves the registry intact only if this class is the one that cannot be added. If it is one of the classes inside, then all classes before it stay in the registry, among them the declared class, and no corrected declaration of the same name can be registered there any more.
-/

namespace ObjectStore.Registry

variable {registry later : Registry} {d : ClassDeclaration} {e : CompileError}

theorem registerDeclaration_of_refuses (h : registry.Refuses (d.name, d) e) :
    registry.registerDeclaration d = (.error e, registry) := by
  have hone : registry.registerOne none d = .error e := registerOne_eq_error_iff.2 h
  cases d
  rw [registerDeclaration, registerWithin, hone]

theorem stops_of_registerDeclaration (h : registry.registerDeclaration d = (.error e, later)) :
    ∃ taken, registry.Stops (declared none d) taken e later := by
  have hregisters := registerWithin_registers none registry d
  rw [← registerDeclaration, h] at hregisters
  exact hregisters.stopped e rfl

namespace Stops

variable {entries taken : List (String × ClassDeclaration)}

theorem length_eq (h : registry.Stops entries taken e later) :
    later.classes.length = registry.classes.length + taken.length := by
  obtain ⟨added, hadded, hclasses⟩ := h.added
  rw [hclasses, List.length_append, (forall₂_of_mapM hadded).length_eq]

theorem intact_iff (h : registry.Stops entries taken e later) : later = registry ↔ taken = [] := by
  constructor
  · rintro rfl
    apply List.eq_nil_of_length_eq_zero
    have hlength := h.length_eq
    omega
  · rintro rfl
    obtain ⟨added, hadded, hclasses⟩ := h.added
    rw [List.mapM_nil] at hadded
    cases hadded
    rw [List.append_nil] at hclasses
    cases later
    cases registry
    exact congrArg Registry.mk hclasses

/-- Of a declaration that was begun the own class has been taken. -/
theorem name_mem (h : registry.Stops (declared none d) taken e later) (htaken : taken ≠ []) : d.name ∈ later.names := by
  obtain ⟨added, hadded, hclasses⟩ := h.added
  obtain ⟨entry, rest, hentries, -⟩ := h.refused
  obtain ⟨first, taken, rfl⟩ := List.exists_cons_of_ne_nil htaken
  rw [declared_eq_cons, List.cons_append, List.cons.injEq] at hentries
  obtain ⟨rfl, -⟩ := hentries
  obtain ⟨own, hown, hfirst⟩ := exists_of_mem_forall₂ (forall₂_of_mapM hadded).flip List.mem_cons_self
  rw [names, hclasses, List.map_append]
  apply List.mem_append_right
  exact List.mem_map.2 ⟨own, hown, transcribe_eq_ok_name hfirst⟩

end Stops

/-- A name that is taken cannot be declared again, whatever the class has inside. -/
theorem refuses_of_name_mem (h : d.name ∈ registry.names) : ∃ e, registry.Refuses (d.name, d) e := by
  cases hown : transcribe (d.name, d) with
  | error e => exact ⟨e, .inl hown⟩
  | ok c =>
    refine ⟨.duplicateClass c.name, .inr ⟨c, hown, ?_⟩⟩
    rw [register, if_pos]
    rw [contains_iff, transcribe_eq_ok_name hown]
    exact h

/-- A declaration that is refused has added the classes before the one that could not be added. The registry is intact if and only if this was the declared class itself, and otherwise every corrected declaration of the same name is refused as well. -/
theorem left_by_refused_declaration (h : registry.registerDeclaration d = (.error e, later)) :
    (∃ taken, registry.Stops (declared none d) taken e later) ∧
    (later = registry ↔ registry.Refuses (d.name, d) e) ∧
    (later ≠ registry → ∀ corrected : ClassDeclaration, corrected.name = d.name →
      ∃ e', later.registerDeclaration corrected = (.error e', later)) := by
  obtain ⟨taken, hstops⟩ := stops_of_registerDeclaration h
  refine ⟨⟨taken, hstops⟩, ⟨fun hintact => ?_, fun hrefused => ?_⟩, fun hleft corrected hname => ?_⟩
  · have htaken := hstops.intact_iff.1 hintact
    obtain ⟨entry, rest, hentries, hrefused⟩ := hstops.refused
    rw [htaken, declared_eq_cons, List.nil_append, List.cons.injEq] at hentries
    obtain ⟨rfl, -⟩ := hentries
    rwa [hintact] at hrefused
  · rw [registerDeclaration_of_refuses hrefused] at h
    cases h
    rfl
  · have hown := hstops.name_mem fun htaken => hleft (hstops.intact_iff.2 htaken)
    rw [← hname] at hown
    obtain ⟨e', hrefused⟩ := refuses_of_name_mem hown
    exact ⟨e', registerDeclaration_of_refuses hrefused⟩

/-- A class whose inner class has two classes of the same name. -/
def brokenOffice : ClassDeclaration :=
  { (default : ClassDeclaration) with
    name := "Office"
    body := [.innerClass { (default : ClassDeclaration) with
      name := "Desk"
      body := [.innerClass { (default : ClassDeclaration) with name := "Drawer" },
        .innerClass { (default : ClassDeclaration) with name := "Drawer" }] }] }

/-- The class with only one of the two. -/
def mendedOffice : ClassDeclaration :=
  { (default : ClassDeclaration) with
    name := "Office"
    body := [.innerClass { (default : ClassDeclaration) with
      name := "Desk", body := [.innerClass { (default : ClassDeclaration) with name := "Drawer" }] }] }

theorem mendedOffice_refused : ∃ later,
    empty.registerDeclaration brokenOffice = (.error (.duplicateClass "Office.Desk.Drawer"), later) ∧
    later ≠ empty ∧ mendedOffice.name = brokenOffice.name ∧
      ∃ e, later.registerDeclaration mendedOffice = (.error e, later) := by
  have hrefused : empty.registerDeclaration brokenOffice = (.error (.duplicateClass "Office.Desk.Drawer"), _) := rfl
  obtain ⟨-, -, hcorrected⟩ := left_by_refused_declaration hrefused
  have hleft : (empty.registerDeclaration brokenOffice).2 ≠ empty := by
    intro hintact
    have hclasses := congrArg (List.length ∘ classes) hintact
    exact absurd hclasses (by decide)
  exact ⟨_, hrefused, hleft, rfl, hcorrected hleft mendedOffice rfl⟩

/-- What was registered of a refused declaration stays, and is in the way of the corrected one. -/
theorem brokenOffice_stays :
    (∃ later, empty.registerDeclaration brokenOffice = (.error (.duplicateClass "Office.Desk.Drawer"), later) ∧
      later.names = ["Office", "Office.Desk", "Office.Desk.Drawer"] ∧
      later.registerDeclaration mendedOffice = (.error (.duplicateClass "Office"), later)) ∧
    empty.names = [] ∧ ∃ c later, empty.registerDeclaration mendedOffice = (.ok c, later) :=
  ⟨⟨_, rfl, rfl, rfl⟩, rfl, _, _, rfl⟩

end ObjectStore.Registry
