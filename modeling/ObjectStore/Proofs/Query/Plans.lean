import ObjectStore.Proofs.Sql.Identifier
import ObjectStore.Query.Plan
import Mathlib.Data.List.Infix
import Mathlib.Data.List.Nodup

/-!
# What join plans look like

A plan only grows by joins whose parents are in it already, so the joins of a plan are ordered from the root outwards. A join is known by the sequence of relations that leads to it, which also gives its name. `Plan.Joined` says how the joins of a plan come about one after the other, and everything that is known of plans follows from it by induction. What one relation can do to a plan is said by `Plan.Refuses` and `Plan.Meets`, and whatever is known of longer ways rests on these.
-/

namespace ObjectStore

theorem Registry.name_of_lookup? {registry : Registry} {name : String} {c : ClassType}
    (h : registry.lookup? name = some c) : c.name = name := by
  rw [Registry.lookup?] at h
  simpa using List.find?_some h

theorem Registry.lookup?_of_resolve {registry : Registry} {name : String} {c : ClassType}
    (h : registry.resolve name = .ok c) : registry.lookup? name = some c := by
  rw [Registry.resolve] at h
  split at h
  · next hlookup =>
    cases h
    exact hlookup
  · cases h

namespace Plan

/-- The name of the table that relations lead to: the root, or the relations with underscores between them. -/
def qualifier (root : String) : List String → String
  | [] => root
  | relations => "_".intercalate relations

theorem qualifier_snoc (root relation : String) (followed : List String) :
    qualifier root (followed ++ [relation]) = "_".intercalate (followed ++ [relation]) := by
  cases followed <;> rfl

/-- The join for one relation more than those that lead to its parent. -/
def joinOf (root : String) (followed : List String) (relation : String) : PlannedJoin :=
  ⟨followed ++ [relation], relation, qualifier root (followed ++ [relation]), qualifier root followed, relation⟩

/-- Whether the table that relations lead to takes part in the joins. -/
def Known (joins : List PlannedJoin) (relations : List String) : Prop :=
  relations = [] ∨ ∃ join ∈ joins, join.relations = relations

/-- The joins that plans with a root can have, by the relation that was followed last. -/
inductive Joined (registry : Registry) (root : String) : List PlannedJoin → Prop where
  | nil : Joined registry root []
  | snoc {joins : List PlannedJoin} {followed : List String} {relation : String} (h : Joined registry root joins)
      (hknown : Known joins followed) (hrelation : Text.isIdentifier relation = true)
      (hclass : registry.contains relation = true)
      (hfresh : qualifier root (followed ++ [relation]) ∉ root :: joins.map (·.name)) :
      Joined registry root (joins ++ [joinOf root followed relation])

variable {registry : Registry} {root : String} {joins : List PlannedJoin}

theorem Known.mono {relations : List String} {more : List PlannedJoin} (h : Known joins relations)
    (hgrown : joins <+: more) : Known more relations :=
  h.imp id fun ⟨join, hjoin, hrelations⟩ => ⟨join, hgrown.subset hjoin, hrelations⟩

theorem Known.of_snoc {followed relations : List String} {relation : String}
    (h : Known (joins ++ [joinOf root followed relation]) relations) :
    Known joins relations ∨ relations = followed ++ [relation] := by
  rcases h with rfl | ⟨join, hjoin, rfl⟩
  · exact .inl (.inl rfl)
  · rcases List.mem_append.1 hjoin with hjoin | hjoin
    · exact .inl (.inr ⟨join, hjoin, rfl⟩)
    · obtain rfl := List.mem_singleton.1 hjoin
      exact .inr rfl

theorem known_nil {relations : List String} (h : Known [] relations) : relations = [] := by
  rcases h with rfl | ⟨join, hjoin, -⟩
  · rfl
  · cases hjoin

namespace Joined

theorem name_eq (h : Joined registry root joins) {join : PlannedJoin} (hjoin : join ∈ joins) :
    join.name = qualifier root join.relations := by
  induction h with
  | nil => cases hjoin
  | snoc _ _ _ _ _ ih =>
    rcases List.mem_append.1 hjoin with hjoin | hjoin
    · exact ih hjoin
    · obtain rfl := List.mem_singleton.1 hjoin
      rfl

/-- No two tables of a plan have the same name. -/
theorem nodup_names (h : Joined registry root joins) : (root :: joins.map (·.name)).Nodup := by
  induction h with
  | nil => exact List.nodup_singleton root
  | snoc _ _ _ _ hfresh ih =>
    rw [List.map_append, List.map_singleton, ← List.cons_append]
    exact ih.append (List.nodup_singleton _) (List.disjoint_singleton.2 hfresh)

/-- A table's name is an identifier, since it is made of identifiers and underscores. -/
theorem isIdentifier_qualifier (hroot : Text.isIdentifier root = true) (h : Joined registry root joins)
    {relations : List String} (hknown : Known joins relations) : Text.isIdentifier (qualifier root relations) = true := by
  induction h generalizing relations with
  | nil =>
    rw [known_nil hknown]
    exact hroot
  | @snoc joins followed relation _ hfollowed hrelation _ _ ih =>
    rcases hknown.of_snoc with hknown | rfl
    · exact ih hknown
    · have hparent := ih hfollowed
      cases followed with
      | nil => exact hrelation
      | cons first rest =>
        have hname : qualifier root (first :: rest ++ [relation]) = qualifier root (first :: rest) ++ ("_" ++ relation) := by
          rw [qualifier_snoc, String.intercalate_append_of_ne_nil (List.cons_ne_nil _ _) (List.cons_ne_nil _ _),
            String.intercalate_singleton, String.append_assoc]
          rfl
        rw [hname]
        apply Text.isIdentifier_append hparent
        intro c hc
        rw [String.toList_append] at hc
        rcases List.mem_append.1 hc with hc | hc
        · obtain rfl := List.mem_singleton.1 hc
          decide
        · exact Text.isIdentifierPart_of_mem hrelation hc

theorem contains_of_mem (h : Joined registry root joins) {relations : List String} (hknown : Known joins relations)
    {relation : String} (hrelation : relation ∈ relations) : registry.contains relation = true := by
  induction h generalizing relations with
  | nil =>
    rw [known_nil hknown] at hrelation
    cases hrelation
  | snoc _ hfollowed _ hclass _ ih =>
    rcases hknown.of_snoc with hknown | rfl
    · exact ih hknown hrelation
    · rcases List.mem_append.1 hrelation with hrelation | hrelation
      · exact ih hfollowed hrelation
      · obtain rfl := List.mem_singleton.1 hrelation
        exact hclass

/-- Every join comes after the one that its relation is followed from. -/
theorem split (h : Joined registry root joins) {before after : List PlannedJoin} {join : PlannedJoin}
    (hjoins : joins = before ++ join :: after) : ∃ followed relation, join = joinOf root followed relation ∧
      Known before followed ∧ Text.isIdentifier relation = true ∧ registry.contains relation = true := by
  induction h generalizing after with
  | nil => exact absurd hjoins.symm (List.append_ne_nil_of_right_ne_nil _ (List.cons_ne_nil _ _))
  | @snoc joins followed relation _ hknown hrelation hclass _ ih =>
    rcases List.eq_nil_or_concat' after with rfl | ⟨after, last, rfl⟩
    · obtain ⟨rfl, hlast⟩ := List.append_inj' hjoins rfl
      cases hlast
      exact ⟨followed, relation, rfl, hknown, hrelation, hclass⟩
    · rw [← List.cons_append, ← List.append_assoc] at hjoins
      exact ih (List.append_inj' hjoins rfl).1

end Joined

/-! ### Growing plans -/

/-- A plan as the compiler makes it. -/
structure Sound (registry : Registry) (plan : Plan) : Prop where
  root : Text.isIdentifier plan.root = true
  joins : Joined registry plan.root plan.joins

theorem sound_start (registry : Registry) {root : String} (h : Text.isIdentifier root = true) :
    Sound registry (start root) :=
  ⟨h, .nil⟩

/-- What comes of following relations: a plan with at most more joins and, without a failure, the name of the table that they lead to. -/
structure Grows (registry : Registry) (plan : Plan) (relations : List String) (result : Except CompileError String × Plan) :
    Prop where
  root_eq : result.2.root = plan.root
  joins : Joined registry plan.root result.2.joins
  grown : plan.joins <+: result.2.joins
  name_eq : ∀ name, result.1 = .ok name → name = qualifier plan.root relations ∧ Known result.2.joins relations

theorem Grows.error (plan : Plan) (h : Joined registry plan.root plan.joins) (relations : List String) (e : CompileError) :
    Grows registry plan relations (.error e, plan) :=
  ⟨rfl, h, List.prefix_rfl, fun _ hname => nomatch hname⟩

theorem Grows.of_grown {plan grown : Plan} {relations : List String} {result : Except CompileError String × Plan}
    (h : Grows registry grown relations result) (hroot : grown.root = plan.root) (hgrown : plan.joins <+: grown.joins) :
    Grows registry plan relations result where
  root_eq := h.root_eq.trans hroot
  joins := hroot ▸ h.joins
  grown := hgrown.trans h.grown
  name_eq := hroot ▸ h.name_eq

theorem joined_of_mem_find? {plan : Plan} {relations : List String} {join : PlannedJoin}
    (h : plan.find? relations = some join) : join ∈ plan.joins ∧ join.relations = relations := by
  rw [find?] at h
  exact ⟨List.mem_of_find?_eq_some h, by simpa using List.find?_some h⟩

/-! ### One relation -/

section

variable {path : FieldPath} {followed rest : List String} {parent relation : String} {plan next : Plan} {join : PlannedJoin}

theorem exists_resolveRelation (h : registry.contains relation = true) (path : String) :
    ∃ target, registry.resolveRelation relation path = .ok target ∧ target.name = relation := by
  obtain ⟨target, htarget⟩ := Option.isSome_iff_exists.1 h
  exact ⟨target, by rw [Registry.resolveRelation, htarget], Registry.name_of_lookup? htarget⟩

theorem resolveRelation_eq_error (h : ¬ registry.contains relation = true) (path : String) :
    ∃ e, registry.resolveRelation relation path = .error e := by
  rw [Registry.contains, Option.not_isSome_iff_eq_none] at h
  exact ⟨_, by rw [Registry.resolveRelation, h]⟩

/-- The join that comes into a plan when a relation is followed from a table. -/
def joinFrom (parent : String) (followed : List String) (relation : String) : PlannedJoin :=
  ⟨followed ++ [relation], relation, "_".intercalate (followed ++ [relation]), parent, relation⟩

theorem joinFrom_eq (root : String) (followed : List String) (relation : String) :
    joinFrom (qualifier root followed) followed relation = joinOf root followed relation := by
  rw [joinFrom, joinOf, qualifier_snoc]

/-- A relation is not followed from the table that those before it lead to. -/
inductive Refuses (registry : Registry) (plan : Plan) (followed : List String) (relation : String) : Prop where
  | invalid (h : ¬ Text.isIdentifier relation = true)
  | self (hstart : followed = []) (h : relation = plan.root)
  | unknown (hnew : plan.find? (followed ++ [relation]) = none) (h : ¬ registry.contains relation = true)
  | taken (hnew : plan.find? (followed ++ [relation]) = none) (h : "_".intercalate (followed ++ [relation]) ∈ plan.names)

/-- A relation is followed, over a join that is in the plan or over one that comes to its end. -/
inductive Meets (registry : Registry) (plan : Plan) (followed : List String) (parent relation : String) :
    PlannedJoin → Plan → Prop where
  | found {join : PlannedJoin} (hrelation : Text.isIdentifier relation = true) (hleaves : ¬ (followed = [] ∧ relation = plan.root))
      (h : plan.find? (followed ++ [relation]) = some join) : Meets registry plan followed parent relation join plan
  | joined (hrelation : Text.isIdentifier relation = true) (hleaves : ¬ (followed = [] ∧ relation = plan.root))
      (hnew : plan.find? (followed ++ [relation]) = none) (hclass : registry.contains relation = true)
      (hfree : "_".intercalate (followed ++ [relation]) ∉ plan.names) :
      Meets registry plan followed parent relation (joinFrom parent followed relation)
        { plan with joins := plan.joins ++ [joinFrom parent followed relation] }

theorem refuses_or_meets (registry : Registry) (plan : Plan) (followed : List String) (parent relation : String) :
    Refuses registry plan followed relation ∨ ∃ join next, Meets registry plan followed parent relation join next := by
  by_cases hrelation : Text.isIdentifier relation = true
  swap
  · exact .inl (.invalid hrelation)
  by_cases hleaves : followed = [] ∧ relation = plan.root
  · exact .inl (.self hleaves.1 hleaves.2)
  cases hfind : plan.find? (followed ++ [relation]) with
  | some join => exact .inr ⟨join, plan, .found hrelation hleaves hfind⟩
  | none =>
    by_cases hclass : registry.contains relation = true
    swap
    · exact .inl (.unknown hfind hclass)
    by_cases htaken : "_".intercalate (followed ++ [relation]) ∈ plan.names
    · exact .inl (.taken hfind htaken)
    · exact .inr ⟨_, _, .joined hrelation hleaves hfind hclass htaken⟩

theorem leaves_iff : (followed.isEmpty && relation == plan.root) = true ↔ followed = [] ∧ relation = plan.root := by
  rw [Bool.and_eq_true, List.isEmpty_iff, beq_iff_eq]

theorem follow_of_refuses (h : Refuses registry plan followed relation) (path : FieldPath) (parent : String) (rest : List String) :
    ∃ e, follow registry path followed parent (relation :: rest) plan = (.error e, plan) := by
  rw [follow]
  cases hcheck : checkIdentifier relation with
  | error e => exact ⟨e, rfl⟩
  | ok checked =>
    simp only [leaves_iff]
    split
    · exact ⟨_, rfl⟩
    next hleaves =>
    cases h with
    | invalid h => exact absurd (checkIdentifier_eq_ok hcheck).1 h
    | self hstart h => exact absurd ⟨hstart, h⟩ hleaves
    | unknown hnew h =>
      obtain ⟨e, he⟩ := resolveRelation_eq_error h path.display
      simp only [hnew, he]
      exact ⟨e, rfl⟩
    | taken hnew h =>
      rw [hnew]
      cases registry.resolveRelation relation path.display with
      | error e => exact ⟨e, rfl⟩
      | ok target => exact ⟨_, if_pos (List.contains_iff_mem.2 h)⟩

theorem follow_of_meets (h : Meets registry plan followed parent relation join next) (path : FieldPath) (rest : List String) :
    follow registry path followed parent (relation :: rest) plan =
      follow registry path (followed ++ [relation]) join.name rest next := by
  rw [follow]
  cases h with
  | found hrelation hleaves h =>
    have hcheck : checkIdentifier relation = .ok relation := if_pos hrelation
    simp only [hcheck, leaves_iff, if_neg hleaves, h]
  | joined hrelation hleaves hnew hclass hfree =>
    have hcheck : checkIdentifier relation = .ok relation := if_pos hrelation
    obtain ⟨target, htarget, rfl⟩ := exists_resolveRelation hclass path.display
    simp only [hcheck, leaves_iff, if_neg hleaves, hnew, htarget, List.contains_iff_mem, if_neg hfree, joinFrom]

/-- One relation is refused, and the plan stays, or it is followed and then those after it. -/
theorem follow_cons (registry : Registry) (path : FieldPath) (followed : List String) (parent relation : String)
    (rest : List String) (plan : Plan) :
    (Refuses registry plan followed relation ∧
      ∃ e, follow registry path followed parent (relation :: rest) plan = (.error e, plan)) ∨
    ∃ join next, Meets registry plan followed parent relation join next ∧
      follow registry path followed parent (relation :: rest) plan =
        follow registry path (followed ++ [relation]) join.name rest next := by
  rcases refuses_or_meets registry plan followed parent relation with hrefuses | ⟨join, next, hmeets⟩
  · exact .inl ⟨hrefuses, follow_of_refuses hrefuses path parent rest⟩
  · exact .inr ⟨join, next, hmeets, follow_of_meets hmeets path rest⟩

end

/-! ### Following relations -/

/-- Following relations from a known table ends at the table that they lead to. -/
theorem follow_grows (registry : Registry) (path : FieldPath) {rest followed : List String} {parent : String} {plan : Plan}
    (h : Joined registry plan.root plan.joins) (hknown : Known plan.joins followed)
    (hparent : parent = qualifier plan.root followed) :
    Grows registry plan (followed ++ rest) (follow registry path followed parent rest plan) := by
  -- on the relations that are left, while those followed so far stay known in a plan that may grow
  induction rest generalizing followed parent plan with
  | nil =>
    rw [follow, List.append_nil]
    refine ⟨rfl, h, List.prefix_rfl, fun name hname => ?_⟩
    cases hname
    exact ⟨hparent, hknown⟩
  | cons relation rest ih =>
    have hrest : followed ++ relation :: rest = followed ++ [relation] ++ rest := by
      rw [List.append_assoc, List.singleton_append]
    rw [hrest]
    rcases follow_cons registry path followed parent relation rest plan with ⟨-, e, hstop⟩ | ⟨join, next, hmeets, hstep⟩
    · rw [hstop]
      exact .error plan h _ e
    rw [hstep]
    cases hmeets with
    | found _ _ hfind =>
      obtain ⟨hjoin, hrelations⟩ := joined_of_mem_find? hfind
      exact ih h (.inr ⟨join, hjoin, hrelations⟩) (by rw [h.name_eq hjoin, hrelations])
    | joined hrelation _ _ hclass hfree =>
      rw [← qualifier_snoc plan.root] at hfree
      have hjoins := h.snoc hknown hrelation hclass hfree
      rw [hparent, joinFrom_eq]
      let join := joinOf plan.root followed relation
      let grown : Plan := { plan with joins := plan.joins ++ [join] }
      have hjoin : Known grown.joins (followed ++ [relation]) :=
        .inr ⟨join, List.mem_append_right _ List.mem_cons_self, rfl⟩
      have hnew : Grows registry grown (followed ++ [relation] ++ rest)
          (follow registry path (followed ++ [relation]) join.name rest grown) := ih hjoins hjoin rfl
      exact hnew.of_grown rfl (List.prefix_append _ _)

/-- The plans that come about from the one without joins by looking columns up, whether they are found or not. -/
inductive Reachable (registry : Registry) : Plan → Prop where
  | start {root : String} (hroot : Text.isIdentifier root = true) : Reachable registry (start root)
  | column {plan : Plan} (h : Reachable registry plan) (path : FieldPath) (index : Nat) :
      Reachable registry (plan.column registry path index).2

theorem column_joined {registry : Registry} {plan : Plan} (h : Joined registry plan.root plan.joins) (path : FieldPath)
    (index : Nat) : (plan.column registry path index).2.root = plan.root ∧
      Joined registry plan.root (plan.column registry path index).2.joins ∧
      plan.joins <+: (plan.column registry path index).2.joins := by
  have hstart : plan.root = qualifier plan.root [] := rfl
  have hgrows : Grows registry plan path.relations (follow registry path [] plan.root path.relations plan) :=
    follow_grows registry path h (.inl rfl) hstart
  rw [column]
  split
  · exact ⟨rfl, h, List.prefix_rfl⟩
  · split
    · exact ⟨rfl, h, List.prefix_rfl⟩
    · split
      · next hfollow =>
        rw [hfollow] at hgrows
        exact ⟨hgrows.root_eq, hgrows.joins, hgrows.grown⟩
      · next hfollow =>
        rw [hfollow] at hgrows
        exact ⟨hgrows.root_eq, hgrows.joins, hgrows.grown⟩

theorem Reachable.sound {registry : Registry} {plan : Plan} (h : Reachable registry plan) : Sound registry plan := by
  induction h with
  | start hroot => exact sound_start registry hroot
  | column _ path index ih =>
    obtain ⟨hroot, hjoins, -⟩ := column_joined ih.joins path index
    exact ⟨hroot.symm ▸ ih.root, hroot.symm ▸ hjoins⟩

/-- A plan that came about from another one by more joins. -/
structure Extends (registry : Registry) (plan plan' : Plan) : Prop where
  sound : Sound registry plan'
  root_eq : plan'.root = plan.root
  grown : plan.joins <+: plan'.joins

theorem Extends.refl {registry : Registry} {plan : Plan} (h : Sound registry plan) : Extends registry plan plan :=
  ⟨h, rfl, List.prefix_rfl⟩

theorem Extends.trans {registry : Registry} {plan plan' plan'' : Plan} (h : Extends registry plan plan')
    (h' : Extends registry plan' plan'') : Extends registry plan plan'' :=
  ⟨h'.sound, h'.root_eq.trans h.root_eq, h.grown.trans h'.grown⟩

/-- The expression reads the field at the end of a path, in the table that its relations lead to. -/
def Reads (plan : Plan) (path : FieldPath) (e : Sql.Expr) : Prop :=
  ∃ leaf, path.leaf? = some leaf ∧ Text.isIdentifier leaf = true ∧ Known plan.joins path.relations ∧
    e = .column (some (qualifier plan.root path.relations)) leaf

theorem Reads.mono {registry : Registry} {plan plan' : Plan} {path : FieldPath} {e : Sql.Expr} (h : Reads plan path e)
    (hextends : Extends registry plan plan') : Reads plan' path e := by
  obtain ⟨leaf, hleaf, hidentifier, hknown, rfl⟩ := h
  exact ⟨leaf, hleaf, hidentifier, hknown.mono hextends.grown, by rw [hextends.root_eq]⟩

theorem column?_spec {registry : Registry} {plan plan' : Plan} {path : FieldPath} {index : Nat} {e : Sql.Expr}
    (h : Sound registry plan) (hcolumn : plan.column? registry path index = .ok (e, plan')) :
    Extends registry plan plan' ∧ Reads plan' path e := by
  have hstart : plan.root = qualifier plan.root [] := rfl
  have hgrows : Grows registry plan path.relations (follow registry path [] plan.root path.relations plan) :=
    follow_grows registry path h.joins (.inl rfl) hstart
  rw [column?, column] at hcolumn
  cases hleaf : path.leaf? with
  | none =>
    rw [hleaf] at hcolumn
    cases hcolumn
  | some leaf =>
    rw [hleaf] at hcolumn
    cases hcheck : checkIdentifier leaf with
    | error _ =>
      simp only [hcheck] at hcolumn
      cases hcolumn
    | ok checked =>
      cases hfollow : follow registry path [] plan.root path.relations plan with
      | mk result grown =>
        rw [hfollow] at hgrows
        simp only [hcheck, hfollow] at hcolumn
        cases result with
        | error _ => cases hcolumn
        | ok name =>
          cases hcolumn
          obtain ⟨hname, hknown⟩ := hgrows.name_eq name rfl
          have hroot := hgrows.root_eq
          refine ⟨⟨⟨hroot.symm ▸ h.root, hroot.symm ▸ hgrows.joins⟩, hroot, hgrows.grown⟩, leaf, hleaf,
            (checkIdentifier_eq_ok hcheck).1, hknown, ?_⟩
          rw [hname, hroot]

end Plan

end ObjectStore
