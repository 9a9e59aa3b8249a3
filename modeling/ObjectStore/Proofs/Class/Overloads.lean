import ObjectStore.Class.Method
import ObjectStore.Proofs.Fields

/-!
# What a table of methods holds

A table that has come about by additions is known from the methods that it has taken: the overloads of a name are the methods of this name in the order in which they came, and the names are in the order of their first methods. An addition is refused exactly if a method of the same name has the same parameter types, as they are written, and then the table stays as it was, though the entry of the name is made first: a name with an overload to compare has its entry already. Calls go to the first overload that fits and additions come last, so no addition takes a call away from an older method.
-/

namespace ObjectStore

/-- Two methods of one name with the same parameter types, letter by letter. -/
def Method.Repeats (method other : Method) : Prop :=
  other.name = method.name ∧ other.parameterTypes = method.parameterTypes

namespace MethodTable

variable {table later : MethodTable} {className name : String} {method other : Method} {methods : List Method}

/-! ### One addition -/

/-- The table with one more overload at the end of its name. -/
def extended (table : MethodTable) (method : Method) : MethodTable :=
  ⟨Fields.set method.name (table.get method.name ++ [method]) table.overloads⟩

theorem get_opened (table : MethodTable) (name : String) : (table.opened name).get name = table.get name := by
  rw [get, opened, Fields.lookup_set_self, Option.getD_some]

theorem opened_of_mem (h : method ∈ table.get name) : table.opened name = table := by
  have hentry : table.overloads.lookup name = some (table.get name) := by
    rw [get] at h ⊢
    cases hlookup : table.overloads.lookup name with
    | none =>
      rw [hlookup] at h
      cases h
    | some overloads => rfl
  rw [opened, Fields.set_of_lookup hentry]

theorem add_of_repeats (hother : other ∈ table.get method.name) (htypes : other.parameterTypes = method.parameterTypes)
    (className : String) :
    table.add className method = (.error (.duplicateMethod className method.name method.signature), table) := by
  have hany : (table.get method.name).any (fun other => other.parameterTypes == method.parameterTypes) = true :=
    List.any_eq_true.2 ⟨other, hother, beq_iff_eq.2 htypes⟩
  rw [add, opened_of_mem hother, if_pos hany]

theorem add_of_new (h : ∀ other ∈ table.get method.name, other.parameterTypes ≠ method.parameterTypes)
    (className : String) : table.add className method = (.ok (), table.extended method) := by
  have hany : ¬ (table.get method.name).any (fun other => other.parameterTypes == method.parameterTypes) = true := by
    intro hrepeated
    obtain ⟨other, hother, htypes⟩ := List.any_eq_true.1 hrepeated
    exact h other hother (beq_iff_eq.1 htypes)
  rw [add, get_opened, if_neg hany, opened, Fields.set_set, extended]

theorem add_cases (table : MethodTable) (className : String) (method : Method) :
    (∃ other ∈ table.get method.name, other.parameterTypes = method.parameterTypes ∧
      table.add className method = (.error (.duplicateMethod className method.name method.signature), table)) ∨
    ((∀ other ∈ table.get method.name, other.parameterTypes ≠ method.parameterTypes) ∧
      table.add className method = (.ok (), table.extended method)) := by
  by_cases hrepeats : ∃ other ∈ table.get method.name, other.parameterTypes = method.parameterTypes
  · obtain ⟨other, hother, htypes⟩ := hrepeats
    exact .inl ⟨other, hother, htypes, add_of_repeats hother htypes className⟩
  · have hnew : ∀ other ∈ table.get method.name, other.parameterTypes ≠ method.parameterTypes :=
      fun other hother htypes => hrepeats ⟨other, hother, htypes⟩
    exact .inr ⟨hnew, add_of_new hnew className⟩

theorem get_extended (table : MethodTable) (method : Method) (name : String) :
    (table.extended method).get name = table.get name ++ if method.name = name then [method] else [] := by
  rw [get, extended]
  by_cases hname : method.name = name
  · rw [if_pos hname, ← hname, Fields.lookup_set_self, Option.getD_some]
  · rw [if_neg hname, Fields.lookup_set_of_ne (Ne.symm hname), List.append_nil, ← get]

/-! ### Calls -/

/-- The new overload is asked last. -/
theorem resolve?_extended (table : MethodTable) (method : Method) (name : String) (types : List String) :
    (table.extended method).resolve? name types =
      (table.resolve? name types).or (if method.name = name ∧ method.accepts types = true then some method else none) := by
  rw [resolve?, get_extended, List.find?_append, ← resolve?]
  congr 1
  by_cases hname : method.name = name
  · cases haccepts : method.accepts types with
    | true => simp [hname, haccepts]
    | false => simp [hname, haccepts]
  · simp [hname]

theorem resolve?_add {types : List String} {found : Method} (h : table.resolve? name types = some found)
    (className : String) (method : Method) : (table.add className method).2.resolve? name types = some found := by
  rcases table.add_cases className method with ⟨-, -, -, hadd⟩ | ⟨-, hadd⟩
  · rw [hadd]
    exact h
  · rw [hadd, resolve?_extended, h, Option.some_or]

/-- A call that went nowhere goes to the new method or nowhere. -/
theorem eq_of_resolve?_add {types : List String} {found : Method} (h : table.resolve? name types = none)
    (hfound : (table.add className method).2.resolve? name types = some found) :
    found = method ∧ (table.add className method).1 = .ok () := by
  rcases table.add_cases className method with ⟨-, -, -, hadd⟩ | ⟨-, hadd⟩
  · rw [hadd, h] at hfound
    cases hfound
  · rw [hadd, resolve?_extended, h, Option.none_or] at hfound
    split at hfound
    · cases hfound
      exact ⟨rfl, by rw [hadd]⟩
    · cases hfound

/-! ### What was taken -/

/-- A table that holds methods, and nothing else: under each name its methods as they came, and the names as their first methods came. -/
structure Holds (table : MethodTable) (methods : List Method) : Prop where
  get_eq : ∀ name, table.get name = methods.filter (·.name = name)
  names_eq : table.names = (methods.map Method.name).eraseDups

theorem holds_empty : empty.Holds [] :=
  ⟨fun _ => rfl, rfl⟩

namespace Holds

theorem mem_get_iff (h : table.Holds methods) : method ∈ table.get name ↔ method ∈ methods ∧ method.name = name := by
  rw [h.get_eq, List.mem_filter, decide_eq_true_eq]

theorem extended (h : table.Holds methods) (method : Method) : (table.extended method).Holds (methods ++ [method]) where
  get_eq name := by
    rw [get_extended, h.get_eq, List.filter_append]
    congr 1
    by_cases hname : method.name = name <;> simp [hname]
  names_eq := by
    have hnames : (table.extended method).names =
        if method.name ∈ table.names then table.names else table.names ++ [method.name] := Fields.names_set _ _ _
    rw [hnames, h.names_eq, List.map_append, List.map_singleton, eraseDups_concat]
    simp only [List.mem_eraseDups]

/-- An addition is refused, and nothing changes, or the method is the last that the table holds. -/
theorem add_cases (h : table.Holds methods) (className : String) (method : Method) :
    ((∃ other ∈ methods, method.Repeats other) ∧
      table.add className method = (.error (.duplicateMethod className method.name method.signature), table)) ∨
    ((∀ other ∈ methods, ¬ method.Repeats other) ∧ ∃ later, table.add className method = (.ok (), later) ∧
      later.Holds (methods ++ [method])) := by
  rcases table.add_cases className method with ⟨other, hother, htypes, hadd⟩ | ⟨hnew, hadd⟩
  · obtain ⟨hmem, hname⟩ := h.mem_get_iff.1 hother
    exact .inl ⟨⟨other, hmem, hname, htypes⟩, hadd⟩
  · refine .inr ⟨fun other hother hrepeats => ?_, _, hadd, h.extended method⟩
    exact hnew other (h.mem_get_iff.2 ⟨hother, hrepeats.1⟩) hrepeats.2

theorem add_eq_error_iff (h : table.Holds methods) :
    (∃ e later, table.add className method = (.error e, later)) ↔ ∃ other ∈ methods, method.Repeats other := by
  rcases h.add_cases className method with ⟨hrepeats, hadd⟩ | ⟨hnew, later, hadd, -⟩
  · exact ⟨fun _ => hrepeats, fun _ => ⟨_, _, hadd⟩⟩
  · constructor
    · rintro ⟨e, after, herror⟩
      rw [hadd] at herror
      cases herror
    · rintro ⟨other, hother, hrepeats⟩
      exact absurd hrepeats (hnew other hother)

theorem overloads_ne_nil (h : table.Holds methods) : ∀ entry ∈ table.overloads, entry.2 ≠ [] := by
  intro entry hentry
  have hnodup : table.names.Nodup := h.names_eq ▸ nodup_eraseDups _
  -- Its name is that of a method, and this is among the overloads of the entry, as there is no other entry of the name.
  have hname : entry.1 ∈ table.names := List.mem_map_of_mem hentry
  rw [h.names_eq, List.mem_eraseDups, List.mem_map] at hname
  obtain ⟨method, hmethod, hname⟩ := hname
  have hget : table.get entry.1 = entry.2 := by rw [get, Fields.lookup_of_mem hnodup hentry, Option.getD_some]
  rw [← hget]
  exact List.ne_nil_of_mem (h.mem_get_iff.2 ⟨hmethod, hname⟩)

end Holds

end MethodTable

/-! ### Runs of additions -/

/-- What a run of additions to the empty table has come to: the methods that were taken, and the table. -/
structure Additions where
  taken : List Method
  table : MethodTable

namespace Additions

/-- One more addition, of a method of a class. -/
def next (additions : Additions) (call : String × Method) : Additions :=
  match additions.table.add call.1 call.2 with
  | (.ok (), table) => ⟨additions.taken ++ [call.2], table⟩
  | (.error _, table) => ⟨additions.taken, table⟩

/-- The run of some calls. -/
def run (calls : List (String × Method)) : Additions :=
  calls.foldl next ⟨[], .empty⟩

theorem run_append (calls more : List (String × Method)) : run (calls ++ more) = more.foldl next (run calls) := by
  rw [run, List.foldl_append, ← run]

theorem run_concat (calls : List (String × Method)) (call : String × Method) : run (calls ++ [call]) = (run calls).next call := by
  rw [run_append, List.foldl_cons, List.foldl_nil]

theorem table_next (additions : Additions) (call : String × Method) :
    (additions.next call).table = (additions.table.add call.1 call.2).2 := by
  rw [next]
  split <;> next heq => rw [heq]

theorem next_cases {additions : Additions} (h : additions.table.Holds additions.taken) (call : String × Method) :
    ((∃ other ∈ additions.taken, call.2.Repeats other) ∧ additions.next call = additions) ∨
    ((∀ other ∈ additions.taken, ¬ call.2.Repeats other) ∧
      ∃ later, additions.next call = ⟨additions.taken ++ [call.2], later⟩ ∧ later.Holds (additions.taken ++ [call.2])) := by
  rcases h.add_cases call.1 call.2 with ⟨hrepeats, hadd⟩ | ⟨hnew, later, hadd, hlater⟩
  · exact .inl ⟨hrepeats, by rw [next, hadd]⟩
  · exact .inr ⟨hnew, later, by rw [next, hadd], hlater⟩

theorem run_holds (calls : List (String × Method)) : (run calls).table.Holds (run calls).taken := by
  induction calls using List.reverseRecOn with
  | nil => exact MethodTable.holds_empty
  | append_singleton calls call ih =>
    rw [run_concat]
    rcases next_cases ih call with ⟨-, hnext⟩ | ⟨-, later, hnext, hlater⟩
    · rwa [hnext]
    · rwa [hnext]

/-- A call that goes to a method goes there after any further additions. -/
theorem resolve?_run_append {calls : List (String × Method)} {name : String} {types : List String} {found : Method}
    (h : (run calls).table.resolve? name types = some found) (more : List (String × Method)) :
    (run (calls ++ more)).table.resolve? name types = some found := by
  induction more using List.reverseRecOn with
  | nil => rwa [List.append_nil]
  | append_singleton more call ih =>
    rw [← List.append_assoc, run_concat, table_next]
    exact MethodTable.resolve?_add ih call.1 call.2

/-- After any run of additions the table has under each name the methods that were taken, in order, and no empty entry. One more addition fails exactly if a taken method has its name and parameter types, and then changes nothing. No call that found a method finds another one from then on, and one that found none finds the new method or none. -/
theorem table_follows_additions (calls : List (String × Method)) (className : String) (method : Method) :
    ((∃ e later, (run calls).table.add className method = (.error e, later)) ↔
      ∃ earlier ∈ (run calls).taken, earlier.name = method.name ∧ earlier.parameterTypes = method.parameterTypes) ∧
    (∀ e later, (run calls).table.add className method = (.error e, later) →
      later = (run calls).table ∧ e = .duplicateMethod className method.name method.signature) ∧
    (∀ name, (run calls).table.get name = (run calls).taken.filter (·.name = name)) ∧
    (run calls).table.names = ((run calls).taken.map Method.name).eraseDups ∧
    (∀ entry ∈ (run calls).table.overloads, entry.2 ≠ []) ∧
    (∀ name types found, (run calls).table.resolve? name types = some found →
      ((run calls).table.add className method).2.resolve? name types = some found ∧
      ∀ more, (run (calls ++ more)).table.resolve? name types = some found) ∧
    (∀ name types found, (run calls).table.resolve? name types = none →
      ((run calls).table.add className method).2.resolve? name types = some found →
      found = method ∧ ((run calls).table.add className method).1 = .ok ()) := by
  have hholds := run_holds calls
  refine ⟨hholds.add_eq_error_iff, ?_, hholds.get_eq, hholds.names_eq, hholds.overloads_ne_nil, ?_, ?_⟩
  · intro e later herror
    rcases hholds.add_cases className method with ⟨-, hadd⟩ | ⟨-, after, hadd, -⟩
    · rw [hadd] at herror
      cases herror
      exact ⟨rfl, rfl⟩
    · rw [hadd] at herror
      cases herror
  · intro name types found hfound
    exact ⟨MethodTable.resolve?_add hfound className method, resolve?_run_append hfound⟩
  · intro name types found hnone hfound
    exact MethodTable.eq_of_resolve?_add hnone hfound

end Additions

end ObjectStore
