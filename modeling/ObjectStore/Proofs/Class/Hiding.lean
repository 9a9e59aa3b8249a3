import Mathlib.Data.List.Forall2
import Mathlib.Data.List.Pairwise
import ObjectStore.Proofs.Class.Overloads
import ObjectStore.Proofs.Results

/-!
# Overloads that no call reaches

Calls compare the names of types without regard to case, and additions compare them letter by letter. So a table can hold overloads whose parameter types differ in nothing but case, and of these only the first is ever called. In general an overload is out of reach exactly if an earlier one covers it, which means that each of its parameters is taken by the earlier one's parameter of the same place.
-/

namespace ObjectStore

namespace Method

variable {method other : Method} {types : List String}

/-- As many types, each with the same name up to case. -/
def SameTypes (types others : List String) : Prop :=
  List.Forall₂ (fun type other => Text.sameName type other = true) types others

theorem SameTypes.symm {others : List String} (h : SameTypes types others) : SameTypes others types :=
  h.flip.imp fun _ _ hsame => Text.sameName_symm hsame

/-- Every parameter stands for the other method's parameter of the same place, or for any object. -/
def Covers (method other : Method) : Prop :=
  List.Forall₂ (fun parameter covered => Text.sameName parameter covered = true ∨ Text.sameName parameter "Object" = true)
    method.parameterTypes other.parameterTypes

theorem covers_of_sameTypes (h : SameTypes method.parameterTypes other.parameterTypes) : method.Covers other :=
  h.imp fun _ _ => .inl

theorem fits_iff {parameter argument : String} : fits parameter argument = true ↔
    Text.sameName parameter argument = true ∨ Text.sameName parameter "Object" = true ∨ argument = "Null" := by
  rw [fits, Bool.or_eq_true, Bool.or_eq_true, beq_iff_eq, or_assoc]

theorem fitsAll_iff {parameters arguments : List String} :
    fitsAll parameters arguments = true ↔ List.Forall₂ (fun parameter argument => fits parameter argument = true) parameters arguments := by
  induction parameters generalizing arguments with
  | nil => cases arguments <;> simp [fitsAll]
  | cons parameter parameters ih =>
    cases arguments with
    | nil => simp [fitsAll]
    | cons argument arguments => rw [fitsAll, Bool.and_eq_true, ih, List.forall₂_cons]

theorem accepts_of_covers (h : method.Covers other) (hother : other.accepts types = true) : method.accepts types = true := by
  rw [accepts, fitsAll_iff] at hother ⊢
  refine forall₂_of_common h.flip hother fun covered _ parameter argument hcovers hfits => ?_
  rw [fits_iff] at hfits ⊢
  rcases hcovers with hsame | hobject
  · rcases hfits with hargument | hany | hnull
    · exact .inl (Text.sameName_trans hsame hargument)
    · exact .inr (.inl (Text.sameName_trans hsame hany))
    · exact .inr (.inr hnull)
  · exact .inr (.inl hobject)

/-- The type itself, in a spelling that is not the one of the type of null, which every parameter accepts. -/
def spelledApart (type : String) : String :=
  if type = "Null" then "null" else type

theorem sameName_spelledApart (parameter type : String) :
    Text.sameName parameter (spelledApart type) = Text.sameName parameter type := by
  apply Text.sameName_congr
  rw [spelledApart]
  split
  · next hnull =>
    rw [hnull]
    decide
  · exact Text.sameName_self type

theorem spelledApart_ne (type : String) : spelledApart type ≠ "Null" := by
  rw [spelledApart]
  split
  · decide
  · next hnull => exact hnull

theorem accepts_own (method : Method) : method.accepts (method.parameterTypes.map spelledApart) = true := by
  rw [accepts, fitsAll_iff, List.forall₂_map_right_iff, List.forall₂_same]
  intro type _
  rw [fits_iff, sameName_spelledApart]
  exact .inl (Text.sameName_self type)

theorem covers_of_accepts_own (h : method.accepts (other.parameterTypes.map spelledApart) = true) : method.Covers other := by
  rw [accepts, fitsAll_iff, List.forall₂_map_right_iff] at h
  refine h.imp fun parameter covered hfits => ?_
  rw [fits_iff, sameName_spelledApart] at hfits
  rcases hfits with hsame | hobject | hnull
  · exact .inl hsame
  · exact .inr hobject
  · exact absurd hnull (spelledApart_ne covered)

end Method

/-- All calls that fit an overload go to earlier ones if and only if one of these covers it. -/
theorem MethodTable.hidden_iff_covered {table : MethodTable} {name : String} {before after : List Method} {method : Method}
    (h : table.get name = before ++ method :: after) :
    (∀ types, method.accepts types = true → ∃ earlier ∈ before, table.resolve? name types = some earlier) ↔
      ∃ earlier ∈ before, earlier.Covers method := by
  constructor
  · intro hhidden
    obtain ⟨earlier, hmem, hfound⟩ := hhidden _ method.accepts_own
    rw [resolve?] at hfound
    have haccepts := List.find?_some hfound
    exact ⟨earlier, hmem, Method.covers_of_accepts_own haccepts⟩
  · rintro ⟨earlier, hmem, hcovers⟩ types haccepts
    have hfirst : (before.find? (·.accepts types)).isSome = true :=
      List.find?_isSome.2 ⟨earlier, hmem, Method.accepts_of_covers hcovers haccepts⟩
    obtain ⟨found, hfound⟩ := Option.isSome_iff_exists.1 hfirst
    refine ⟨found, List.mem_of_find?_eq_some hfound, ?_⟩
    rw [resolve?, h, List.find?_append, hfound, Option.some_or]

namespace Additions

/-- What is taken of some calls: their methods, no two that repeat each other, and of each call the method or one that it repeats. -/
structure Took (calls : List (String × Method)) (taken : List Method) : Prop where
  added : ∀ method ∈ taken, ∃ call ∈ calls, call.2 = method
  apart : taken.Pairwise fun earlier later => ¬ later.Repeats earlier
  kept : ∀ call ∈ calls, ∃ held ∈ taken, call.2.Repeats held

namespace Took

variable {calls : List (String × Method)} {taken : List Method} {call : String × Method}

theorem added_concat (h : Took calls taken) : ∀ method ∈ taken, ∃ call' ∈ calls ++ [call], call'.2 = method := by
  intro method hmem
  obtain ⟨call', hcall, hmethod⟩ := h.added method hmem
  exact ⟨call', List.mem_append_left _ hcall, hmethod⟩

theorem refuse (h : Took calls taken) (hrepeats : ∃ held ∈ taken, call.2.Repeats held) : Took (calls ++ [call]) taken where
  added := h.added_concat
  apart := h.apart
  kept := List.forall_mem_append.2 ⟨h.kept, List.forall_mem_singleton.2 hrepeats⟩

theorem take (h : Took calls taken) (hnew : ∀ held ∈ taken, ¬ call.2.Repeats held) :
    Took (calls ++ [call]) (taken ++ [call.2]) where
  added := by
    refine List.forall_mem_append.2 ⟨h.added_concat, List.forall_mem_singleton.2 ?_⟩
    exact ⟨call, List.mem_append_right _ List.mem_cons_self, rfl⟩
  apart := by
    refine List.pairwise_append.2 ⟨h.apart, List.pairwise_singleton _ _, fun held hheld => ?_⟩
    exact List.forall_mem_singleton.2 (hnew held hheld)
  kept := by
    refine List.forall_mem_append.2 ⟨fun call' hcall => ?_, List.forall_mem_singleton.2 ?_⟩
    · obtain ⟨held, hheld, hrepeats⟩ := h.kept call' hcall
      exact ⟨held, List.mem_append_left _ hheld, hrepeats⟩
    · exact ⟨call.2, List.mem_append_right _ List.mem_cons_self, rfl, rfl⟩

end Took

theorem run_took (calls : List (String × Method)) : Took calls (run calls).taken := by
  induction calls using List.reverseRecOn with
  | nil => exact ⟨fun _ hmem => absurd hmem List.not_mem_nil, .nil, fun _ hmem => absurd hmem List.not_mem_nil⟩
  | append_singleton calls call ih =>
    rw [run_concat]
    rcases next_cases (run_holds calls) call with ⟨hrepeats, hnext⟩ | ⟨hnew, later, hnext, -⟩
    · rw [hnext]
      exact ih.refuse hrepeats
    · rw [hnext]
      exact ih.take hnew

/-- The overloads of a name are different as they are written. They are different up to case, too, if and only if no two methods that were added under the name differ in nothing but the case of their types; otherwise the later one of two such methods is held as well. And every overload that is covered by an earlier one, as this later one is, is out of reach of all calls. -/
theorem overloads_apart_iff (calls : List (String × Method)) (name : String) :
    ((run calls).table.get name).Pairwise (fun earlier later => earlier.parameterTypes ≠ later.parameterTypes) ∧
    (((run calls).table.get name).Pairwise (fun earlier later =>
        ¬ Method.SameTypes earlier.parameterTypes later.parameterTypes) ↔
      ∀ call ∈ calls, ∀ other ∈ calls, call.2.name = name → other.2.name = name →
        Method.SameTypes call.2.parameterTypes other.2.parameterTypes → call.2.parameterTypes = other.2.parameterTypes) ∧
    (∀ before method after, (run calls).table.get name = before ++ method :: after →
      ((∀ types, method.accepts types = true →
          ∃ earlier ∈ before, (run calls).table.resolve? name types = some earlier) ↔
        ∃ earlier ∈ before, earlier.Covers method)) := by
  have hholds := run_holds calls
  have htook := run_took calls
  have hwritten : ((run calls).table.get name).Pairwise (fun earlier later => earlier.parameterTypes ≠ later.parameterTypes) := by
    have hsublist : ((run calls).table.get name).Sublist (run calls).taken := by
      rw [hholds.get_eq]
      exact List.filter_sublist
    refine (htook.apart.sublist hsublist).imp_of_mem fun hearlier hlater hrepeats htypes => hrepeats ⟨?_, htypes⟩
    rw [(hholds.mem_get_iff.1 hearlier).2, (hholds.mem_get_iff.1 hlater).2]
  refine ⟨hwritten, ⟨fun hdifferent call hcall other hother hname hothername hsame => ?_, fun hcalls => ?_⟩,
    fun _ _ _ => MethodTable.hidden_iff_covered⟩
  · -- The table has both types as they are written, so two of its overloads would be the same up to case.
    by_contra htypes
    obtain ⟨held, hheld, hheldname, hheldtypes⟩ := htook.kept call hcall
    obtain ⟨held', hheld', hheldname', hheldtypes'⟩ := htook.kept other hother
    have hne : held ≠ held' := by
      rintro rfl
      exact htypes (hheldtypes.symm.trans hheldtypes')
    have hmem : held ∈ (run calls).table.get name := hholds.mem_get_iff.2 ⟨hheld, hheldname.trans hname⟩
    have hmem' : held' ∈ (run calls).table.get name := hholds.mem_get_iff.2 ⟨hheld', hheldname'.trans hothername⟩
    have hsymmetric : Std.Symm fun earlier later : Method =>
        ¬ Method.SameTypes earlier.parameterTypes later.parameterTypes := ⟨fun _ _ h hsame => h hsame.symm⟩
    apply hdifferent.forall hmem hmem' hne
    rwa [hheldtypes, hheldtypes']
  · refine hwritten.imp_of_mem fun hearlier hlater hne hsame => ?_
    obtain ⟨hearlier, hname⟩ := hholds.mem_get_iff.1 hearlier
    obtain ⟨hlater, hothername⟩ := hholds.mem_get_iff.1 hlater
    obtain ⟨call, hcall, rfl⟩ := htook.added _ hearlier
    obtain ⟨other, hother, rfl⟩ := htook.added _ hlater
    exact hne (hcalls call hcall other hother hname hothername hsame)

/-- A method that rounds numbers of a type. -/
def rounding (type : String) : Method :=
  .ofDeclaration { (default : MethodDeclaration) with name := "round", parameters := [⟨.named type, "number"⟩] }

/-- A method is taken beside one whose types differ in case only, and no call ever goes to it. -/
theorem second_rounding_hidden :
    (run [("Math", rounding "Integer"), ("Math", rounding "integer")]).table.get "round" = [rounding "Integer", rounding "integer"] ∧
    Method.SameTypes (rounding "Integer").parameterTypes (rounding "integer").parameterTypes ∧
    ∀ types found, (run [("Math", rounding "Integer"), ("Math", rounding "integer")]).table.resolve? "round" types = some found →
      found.parameterTypes = ["Integer"] := by
  have hget : (run [("Math", rounding "Integer"), ("Math", rounding "integer")]).table.get "round" =
      [rounding "Integer"] ++ rounding "integer" :: [] := rfl
  have hsame : Method.SameTypes (rounding "Integer").parameterTypes (rounding "integer").parameterTypes := .cons (by decide) .nil
  refine ⟨hget, hsame, fun types found hfound => ?_⟩
  have hhidden := (MethodTable.hidden_iff_covered hget).2 ⟨_, List.mem_singleton_self _, Method.covers_of_sameTypes hsame⟩
  rw [MethodTable.resolve?] at hfound
  have hmem := List.mem_of_find?_eq_some hfound
  have haccepts := List.find?_some hfound
  rw [hget, List.mem_append, List.mem_singleton, List.mem_singleton] at hmem
  rcases hmem with rfl | rfl
  · rfl
  · obtain ⟨earlier, hearlier, hfirst⟩ := hhidden types haccepts
    rw [List.mem_singleton] at hearlier
    rw [MethodTable.resolve?, hfound, hearlier, Option.some.injEq] at hfirst
    rw [hfirst]
    rfl

end Additions

end ObjectStore
