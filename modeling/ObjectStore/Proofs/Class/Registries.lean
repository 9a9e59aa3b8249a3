import Mathlib.Data.List.Infix
import Mathlib.Data.List.Nodup
import ObjectStore.Class.Registry
import ObjectStore.Native.Builtin
import ObjectStore.Proofs.Results

/-!
# Registries only grow

A registry comes about by registering classes one after the other, and so its names are distinct, and it has every class under the class's own name. A registry that has grown from another one starts with the classes of this one, so what could be looked up there is found as before. A declaration that could be registered has added its own class and those of all the classes inside of it, in the order in which they are written, each under its qualified name.
-/

namespace ObjectStore

namespace Registry

/-- One registry comes from another by registering classes one after the other. -/
inductive Grown (registry : Registry) : Registry → Prop where
  | refl : Grown registry registry
  | register {later last : Registry} {c : ClassType} (h : Grown registry later) (hc : later.register c = .ok last) :
      Grown registry last

/-- The registries that can come about. -/
def Built (registry : Registry) : Prop := empty.Grown registry

variable {registry later last : Registry} {name : String} {c : ClassType}

theorem contains_iff : registry.contains name = true ↔ name ∈ registry.names := by
  simp [contains, lookup?, names]

theorem register_eq_ok_iff :
    registry.register c = .ok later ↔ c.name ∉ registry.names ∧ later = ⟨registry.classes ++ [c]⟩ := by
  rw [register, ← contains_iff]
  by_cases h : registry.contains c.name = true
  · simp [h]
  · simp [h, eq_comm]

namespace Grown

theorem trans (h : registry.Grown later) (h' : later.Grown last) : registry.Grown last := by
  induction h' with
  | refl => exact h
  | register _ hc ih => exact ih.register hc

/-- The classes that a registry has grown by have new names. -/
theorem fresh (h : registry.Grown later) : ∃ added, later.classes = registry.classes ++ added ∧
    (added.map ClassType.name).Nodup ∧ ∀ c ∈ added, c.name ∉ registry.names := by
  induction h with
  | refl => exact ⟨[], (List.append_nil _).symm, List.nodup_nil, fun _ hmem => absurd hmem List.not_mem_nil⟩
  | @register later last c _ hc ih =>
    obtain ⟨added, hadded, hnodup, hfresh⟩ := ih
    obtain ⟨hname, rfl⟩ := register_eq_ok_iff.1 hc
    rw [names, hadded, List.map_append, List.mem_append, not_or] at hname
    refine ⟨added ++ [c], by rw [hadded, List.append_assoc], ?_, fun other hother => ?_⟩
    · rw [List.map_append, List.nodup_append_comm]
      exact List.nodup_cons.2 ⟨hname.2, hnodup⟩
    · rcases List.mem_append.1 hother with hmem | hmem
      · exact hfresh other hmem
      · rw [List.mem_singleton] at hmem
        rw [hmem]
        exact hname.1

theorem isPrefix (h : registry.Grown later) : registry.classes <+: later.classes := by
  obtain ⟨added, hadded, -, -⟩ := h.fresh
  exact ⟨added, hadded.symm⟩

theorem lookup? (h : registry.Grown later) (hc : registry.lookup? name = some c) : later.lookup? name = some c :=
  h.isPrefix.find?_eq_some hc

theorem nodup (h : registry.Grown later) (hnodup : registry.names.Nodup) : later.names.Nodup := by
  obtain ⟨added, hadded, haddednodup, hfresh⟩ := h.fresh
  rw [names, hadded, List.map_append, List.nodup_append']
  refine ⟨hnodup, haddednodup, fun name hname hadded => ?_⟩
  obtain ⟨c, hc, rfl⟩ := List.mem_map.1 hadded
  exact hfresh c hc hname

end Grown

theorem built_iff : registry.Built ↔ registry.names.Nodup := by
  constructor
  · intro h
    exact h.nodup List.nodup_nil
  · intro h
    obtain ⟨classes⟩ := registry
    induction classes using List.reverseRecOn with
    | nil => exact .refl
    | append_singleton classes c ih =>
      rw [names, List.map_append, List.nodup_append_comm] at h
      obtain ⟨hname, hnodup⟩ := List.nodup_cons.1 h
      exact (ih hnodup).register (register_eq_ok_iff.2 ⟨hname, rfl⟩)

/-- A class is found under its own name and no other. -/
theorem Built.lookup?_eq_some_iff (h : registry.Built) :
    registry.lookup? name = some c ↔ c ∈ registry.classes ∧ c.name = name := by
  rw [lookup?]
  constructor
  · intro hc
    have hname := List.find?_some hc
    exact ⟨List.mem_of_find?_eq_some hc, by simpa using hname⟩
  · rintro ⟨hmem, rfl⟩
    have hnodup := built_iff.1 h
    obtain ⟨before, after, heq⟩ := List.append_of_mem hmem
    rw [names, heq, List.map_append, List.map_cons, List.nodup_middle, List.nodup_cons] at hnodup
    have hbefore : before.find? (fun other => other.name == c.name) = none := by
      rw [List.find?_eq_none]
      intro other hother
      rw [beq_iff_eq]
      intro hname
      apply hnodup.1
      rw [← hname]
      exact List.mem_append_left _ (List.mem_map_of_mem hother)
    simp [heq, List.find?_append, hbefore]

theorem builtin_built : builtin.Built :=
  built_iff.2 (by decide)

/-! ### Declarations -/

mutual

/-- The class of a declaration and those inside of it, with their names in the class around them, as they are written. -/
def declared (outer : Option String) : ClassDeclaration → List (String × ClassDeclaration)
  | d@⟨name, _, _, _, body, _⟩ => (qualify outer name, d) :: declaredInside (qualify outer name) body

def declaredInside (outer : String) : List Declaration → List (String × ClassDeclaration)
  | [] => []
  | .innerClass d :: rest => declared (some outer) d ++ declaredInside outer rest
  | _ :: rest => declaredInside outer rest

end

theorem declared_eq_cons (outer : Option String) (d : ClassDeclaration) :
    declared outer d = (qualify outer d.name, d) :: declaredInside (qualify outer d.name) d.body := by
  cases d
  rw [declared]

/-- A declared class under the name that it has in the class around it. -/
def transcribe (entry : String × ClassDeclaration) : Except CompileError ClassType :=
  (ClassType.ofDeclaration entry.2).map fun c => { c with name := entry.1 }

theorem registerOne_eq_ok_iff {outer : Option String} {d : ClassDeclaration} :
    registry.registerOne outer d = .ok (c, later) ↔
      transcribe (qualify outer d.name, d) = .ok c ∧ registry.register c = .ok later := by
  simp only [registerOne, transcribe, bind_eq_ok, map_eq_ok]
  constructor
  · rintro ⟨declared, hdeclared, next, hnext, h⟩
    cases h
    exact ⟨⟨declared, hdeclared, rfl⟩, hnext⟩
  · rintro ⟨⟨declared, hdeclared, rfl⟩, hlater⟩
    exact ⟨declared, hdeclared, later, hlater, rfl⟩

theorem transcribe_eq_ok_name {entry : String × ClassDeclaration} (h : transcribe entry = .ok c) : c.name = entry.1 := by
  obtain ⟨declared, -, rfl⟩ := map_eq_ok.1 h
  rfl

/-- The class of an entry cannot be added to the registry: either the class itself is refused, or its name is taken. -/
def Refuses (registry : Registry) (entry : String × ClassDeclaration) (e : CompileError) : Prop :=
  transcribe entry = .error e ∨ ∃ c, transcribe entry = .ok c ∧ registry.register c = .error e

theorem registerOne_eq_error_iff {outer : Option String} {d : ClassDeclaration} {e : CompileError} :
    registry.registerOne outer d = .error e ↔ registry.Refuses (qualify outer d.name, d) e := by
  simp only [registerOne, Refuses, transcribe, bind_eq_error, map_eq_error, map_eq_ok]
  constructor
  · rintro (hrefused | ⟨declared, hdeclared, htaken | ⟨_, -, hok⟩⟩)
    · exact .inl hrefused
    · exact .inr ⟨_, ⟨declared, hdeclared, rfl⟩, htaken⟩
    · cases hok
  · rintro (hrefused | ⟨_, ⟨declared, hdeclared, rfl⟩, htaken⟩)
    · exact .inl hrefused
    · exact .inr ⟨declared, hdeclared, .inl htaken⟩

/-- The registry has grown by the first of the entries, and the one after them is refused. -/
structure Stops (registry : Registry) (entries taken : List (String × ClassDeclaration)) (e : CompileError)
    (later : Registry) : Prop where
  added : ∃ added, taken.mapM transcribe = .ok added ∧ later.classes = registry.classes ++ added
  refused : ∃ entry rest, entries = taken ++ entry :: rest ∧ later.Refuses entry e

/-- The registry has grown by the classes of the entries, or by those before the first that it refuses. -/
structure Registers {α : Type} (registry : Registry) (entries : List (String × ClassDeclaration))
    (result : Except CompileError α × Registry) : Prop where
  grown : registry.Grown result.2
  added : ∀ a, result.1 = .ok a →
    ∃ added, entries.mapM transcribe = .ok added ∧ result.2.classes = registry.classes ++ added
  stopped : ∀ e, result.1 = .error e → ∃ taken, registry.Stops entries taken e result.2

namespace Registers

variable {α β : Type} {first rest : List (String × ClassDeclaration)} {e : CompileError}

/-- What would come after a failure does not matter. -/
theorem error (h : registry.Registers first ((.error e : Except CompileError α), later)) (rest : List (String × ClassDeclaration)) :
    registry.Registers (first ++ rest) ((.error e : Except CompileError β), later) where
  grown := h.grown
  added b hb := by cases hb
  stopped e' he := by
    cases he
    obtain ⟨taken, hadded, entry, others, rfl, hrefused⟩ := h.stopped e rfl
    exact ⟨taken, hadded, entry, others ++ rest, by rw [List.append_assoc, List.cons_append], hrefused⟩

theorem append {a : α} {result : Except CompileError β × Registry} (h : registry.Registers first (.ok a, later))
    (hrest : later.Registers rest result) : registry.Registers (first ++ rest) result where
  grown := h.grown.trans hrest.grown
  added b hb := by
    obtain ⟨firstAdded, hfirst, hlater⟩ := h.added a rfl
    obtain ⟨restAdded, hrest, hlast⟩ := hrest.added b hb
    exact ⟨firstAdded ++ restAdded, mapM_append_eq_ok hfirst hrest, by rw [hlast, hlater, List.append_assoc]⟩
  stopped e he := by
    obtain ⟨firstAdded, hfirst, hlater⟩ := h.added a rfl
    obtain ⟨taken, ⟨added, htaken, hlast⟩, entry, others, rfl, hrefused⟩ := hrest.stopped e he
    refine ⟨first ++ taken, ⟨firstAdded ++ added, mapM_append_eq_ok hfirst htaken, ?_⟩, entry, others, ?_, hrefused⟩
    · rw [hlast, hlater, List.append_assoc]
    · rw [List.append_assoc]

theorem answer {a : α} (h : registry.Registers first (.ok a, later)) (b : β) :
    registry.Registers first ((.ok b : Except CompileError β), later) where
  grown := h.grown
  added _ _ := h.added a rfl
  stopped _ he := by cases he

end Registers

theorem registerOne_registers {outer : Option String} {d : ClassDeclaration}
    (h : registry.registerOne outer d = .ok (c, later)) :
    registry.Registers [(qualify outer d.name, d)] ((.ok c : Except CompileError ClassType), later) where
  grown := Grown.refl.register (registerOne_eq_ok_iff.1 h).2
  added a ha := by
    obtain ⟨hc, hlater⟩ := registerOne_eq_ok_iff.1 h
    obtain ⟨-, rfl⟩ := register_eq_ok_iff.1 hlater
    refine ⟨[c], ?_, rfl⟩
    rw [List.mapM_cons]
    exact bind_eq_ok.2 ⟨c, hc, rfl⟩
  stopped e he := by cases he

theorem registerOne_stops {outer : Option String} {d : ClassDeclaration} {e : CompileError}
    (h : registry.registerOne outer d = .error e) :
    registry.Registers [(qualify outer d.name, d)] ((.error e : Except CompileError ClassType), registry) where
  grown := .refl
  added a ha := by cases ha
  stopped e' he := by
    cases he
    exact ⟨[], ⟨[], rfl, (List.append_nil _).symm⟩, _, [], rfl, registerOne_eq_error_iff.1 h⟩

/-- A declaration adds its class and those inside of it, all of them or those before the first that is refused. -/
theorem registerWithin_registers (outer : Option String) (registry : Registry) (d : ClassDeclaration) :
    registry.Registers (declared outer d) (registerWithin outer registry d) := by
  revert registry
  -- The induction is over the classes inside of each other, as they are listed.
  refine declared.induct
    (fun outer d => ∀ registry : Registry, registry.Registers (declared outer d) (registerWithin outer registry d))
    (fun outer body => ∀ registry : Registry,
      registry.Registers (declaredInside outer body) (registerInner outer registry body)) ?_ ?_ ?_ ?_ outer d
  · intro outer name modifiers superClass implemented body span ih registry
    rw [registerWithin, declared]
    cases hone : registry.registerOne outer ⟨name, modifiers, superClass, implemented, body, span⟩ with
    | error e => exact (registerOne_stops hone).error _
    | ok entry =>
      obtain ⟨c, later⟩ := entry
      have hname : c.name = qualify outer name := transcribe_eq_ok_name (registerOne_eq_ok_iff.1 hone).1
      have hall := (registerOne_registers hone).append (ih later)
      dsimp only
      rw [hname]
      generalize registerInner (qualify outer name) later body = inside at hall ⊢
      obtain ⟨e | _, last⟩ := inside
      · have hstopped := hall.error (β := ClassType) []
        rwa [List.append_nil] at hstopped
      · exact hall.answer c
  · intro outer registry
    rw [registerInner, declaredInside]
    exact ⟨.refl, fun _ _ => ⟨[], rfl, (List.append_nil _).symm⟩, fun e he => by cases he⟩
  · intro outer d rest ihclass ihrest registry
    rw [registerInner, declaredInside]
    have hclass := ihclass registry
    generalize registerWithin (some outer) registry d = first at hclass ⊢
    obtain ⟨e | c, later⟩ := first
    · exact hclass.error _
    · exact hclass.append (ihrest later)
  · intro outer head rest hother ih registry
    rw [registerInner, declaredInside]
    · exact ih registry
    · exact hother
    · exact hother

theorem registerWithin_eq_ok {outer : Option String} {d : ClassDeclaration}
    (h : registerWithin outer registry d = (.ok c, later)) : transcribe (qualify outer d.name, d) = .ok c := by
  obtain ⟨name, modifiers, superClass, implemented, body, span⟩ := d
  rw [registerWithin] at h
  split at h
  · cases h
  · next own grown hone =>
    split at h
    · cases h
    · cases h
      exact (registerOne_eq_ok_iff.1 hone).1

theorem added_of_registerDeclaration {d : ClassDeclaration} (h : registry.registerDeclaration d = (.ok c, later)) :
    ∃ inner, (declared none d).mapM transcribe = .ok (c :: inner) ∧ later.classes = registry.classes ++ c :: inner := by
  rw [registerDeclaration] at h
  have hregisters := registerWithin_registers none registry d
  have hown := registerWithin_eq_ok h
  rw [h] at hregisters
  obtain ⟨added, hadded, hclasses⟩ := hregisters.added c rfl
  have hparts := hadded
  rw [declared_eq_cons, List.mapM_cons] at hparts
  obtain ⟨own, hfirst, hrest⟩ := bind_eq_ok.1 hparts
  obtain ⟨inner, -, hadd⟩ := bind_eq_ok.1 hrest
  rw [hown] at hfirst
  cases hfirst
  cases hadd
  exact ⟨inner, hadded, hclasses⟩

theorem grown_of_registerDeclaration (registry : Registry) (d : ClassDeclaration) :
    registry.Grown (registry.registerDeclaration d).2 :=
  (registerWithin_registers none registry d).grown

end Registry

end ObjectStore
