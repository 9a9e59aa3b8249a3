import Mathlib.Data.List.Infix
import ObjectStore.Proofs.Query.Plans

/-!
# Stages

A path passes through stages: its relations up to each of them. A plan has a join for each stage of the paths that were looked up, in the order in which the stages were first met. So a plan is known by its root and its stages, and `Plan.covering` is the plan after more paths.

Looking up a column succeeds exactly if the path is made of identifiers and classes, does not start with the root, and all stages have names that tell them apart. Nothing in this depends on what has been joined before, except that the names of all stages count, the old and the new.
-/

namespace ObjectStore

/-- The relations of a path up to each of them, from the first on. -/
def FieldPath.stages (path : FieldPath) : List (List String) :=
  path.relations.inits.tail

theorem mem_tail_inits {relations stage : List String} :
    stage ∈ relations.inits.tail ↔ stage ≠ [] ∧ stage <+: relations := by
  cases relations with
  | nil => simp
  | cons relation rest =>
    rw [List.inits_cons, List.tail_cons, List.mem_map]
    constructor
    · rintro ⟨inner, hinner, rfl⟩
      exact ⟨List.cons_ne_nil _ _, List.cons_prefix_cons.2 ⟨rfl, (List.mem_inits _ _).1 hinner⟩⟩
    · rintro ⟨hne, hstage⟩
      obtain ⟨first, inner, rfl⟩ := List.exists_cons_of_ne_nil hne
      obtain ⟨rfl, hinner⟩ := List.cons_prefix_cons.1 hstage
      exact ⟨inner, (List.mem_inits _ _).2 hinner, rfl⟩

/-- The stages of a path are the beginnings of its relations but the empty one. -/
theorem FieldPath.mem_stages {path : FieldPath} {stage : List String} :
    stage ∈ path.stages ↔ stage ≠ [] ∧ stage <+: path.relations :=
  mem_tail_inits

/-- A path that can be followed from a class: made of identifiers, through classes, and not back to the class at once. -/
structure FieldPath.Admissible (registry : Registry) (root : String) (path : FieldPath) : Prop where
  segments_ne_nil : path.segments ≠ []
  identifiers : ∀ segment ∈ path.segments, Text.isIdentifier segment = true
  classes : ∀ relation ∈ path.relations, registry.contains relation = true
  leaves : path.relations.head? ≠ some root

/-- The column at the end of a path from a class: its field, in the table that its relations lead to. -/
def FieldPath.columnFrom (root : String) (path : FieldPath) : Sql.Expr :=
  .column (some (Plan.qualifier root path.relations)) (path.leaf?.getD "")

namespace Plan

/-! ### Plans by their stages -/

def stages (plan : Plan) : List (List String) :=
  plan.joins.map (·.relations)

/-- The join of a stage. -/
def joinAt (root : String) (stage : List String) : PlannedJoin :=
  joinOf root stage.dropLast (stage.getLastD "")

def ofStages (root : String) (stages : List (List String)) : Plan :=
  ⟨root, stages.map (joinAt root)⟩

/-- The stages with more of them at the end, each only if it was not there before. -/
def addStages (stages more : List (List String)) : List (List String) :=
  more.foldl (fun stages stage => if stage ∈ stages then stages else stages ++ [stage]) stages

/-- The plan after some more paths. -/
def covering (plan : Plan) (paths : List FieldPath) : Plan :=
  ofStages plan.root (addStages plan.stages (paths.flatMap FieldPath.stages))

/-- The names of stages tell them apart, from each other and from the root. -/
structure NamesApart (root : String) (stages : List (List String)) : Prop where
  injective : ∀ stage ∈ stages, ∀ other ∈ stages, "_".intercalate stage = "_".intercalate other → stage = other
  ne_root : ∀ stage ∈ stages, "_".intercalate stage ≠ root

/-- The columns of the paths can be looked up one after the other. -/
structure Admits (registry : Registry) (plan : Plan) (paths : List FieldPath) : Prop where
  admissible : ∀ path ∈ paths, path.Admissible registry plan.root
  names : NamesApart plan.root (plan.stages ++ paths.flatMap FieldPath.stages)

variable {registry : Registry} {root : String} {joins : List PlannedJoin} {stages more : List (List String)}

theorem joinAt_snoc (root : String) (followed : List String) (relation : String) :
    joinAt root (followed ++ [relation]) = joinOf root followed relation := by
  rw [joinAt, List.dropLast_concat, List.getLastD_concat]

theorem NamesApart.of_subset (h : NamesApart root stages) (hsubset : more ⊆ stages) : NamesApart root more :=
  ⟨fun stage hstage other hother => h.injective stage (hsubset hstage) other (hsubset hother),
    fun stage hstage => h.ne_root stage (hsubset hstage)⟩

@[simp] theorem addStages_nil (stages : List (List String)) : addStages stages [] = stages := rfl

theorem addStages_cons_of_mem {stage : List String} (h : stage ∈ stages) (more : List (List String)) :
    addStages stages (stage :: more) = addStages stages more := by
  rw [addStages, List.foldl_cons, if_pos h, ← addStages]

theorem addStages_cons_of_not_mem {stage : List String} (h : stage ∉ stages) (more : List (List String)) :
    addStages stages (stage :: more) = addStages (stages ++ [stage]) more := by
  rw [addStages, List.foldl_cons, if_neg h, ← addStages]

theorem addStages_append (stages first second : List (List String)) :
    addStages stages (first ++ second) = addStages (addStages stages first) second :=
  List.foldl_append

@[simp] theorem mem_addStages {stage : List String} : stage ∈ addStages stages more ↔ stage ∈ stages ∨ stage ∈ more := by
  induction more generalizing stages with
  | nil => simp
  | cons first more ih =>
    by_cases h : first ∈ stages
    · rw [addStages_cons_of_mem h, ih, List.mem_cons]
      constructor
      · exact fun hmem => hmem.imp_right .inr
      · rintro (hmem | rfl | hmem)
        · exact .inl hmem
        · exact .inl h
        · exact .inr hmem
    · rw [addStages_cons_of_not_mem h, ih, List.mem_append, List.mem_singleton, List.mem_cons, or_assoc]

theorem addStages_of_subset (h : more ⊆ stages) : addStages stages more = stages := by
  induction more with
  | nil => rfl
  | cons first more ih =>
    rw [addStages_cons_of_mem (h List.mem_cons_self), ih (List.subset_of_cons_subset h)]

/-- The stages that are added are those that were not there, in the order in which they come first. -/
theorem addStages_eq (stages more : List (List String)) :
    addStages stages more = stages ++ (more.filter (· ∉ stages)).eraseDups := by
  induction more generalizing stages with
  | nil => simp
  | cons first more ih =>
    by_cases h : first ∈ stages
    · rw [addStages_cons_of_mem h, ih, List.filter_cons_of_neg (by simpa using h)]
    · have hrest : more.filter (· ∉ stages ++ [first]) = (more.filter (· ∉ stages)).filter fun stage => !stage == first := by
        rw [List.filter_filter]
        refine List.filter_congr fun stage _ => ?_
        simp [not_or, and_comm, beq_eq_decide]
      rw [addStages_cons_of_not_mem h, ih, List.filter_cons_of_pos (by simpa using h), List.eraseDups_cons, hrest,
        List.append_assoc, List.singleton_append]

theorem stages_ofStages (root : String) {stages : List (List String)} (h : [] ∉ stages) :
    (ofStages root stages).stages = stages := by
  rw [Plan.stages, ofStages, List.map_map]
  refine (List.map_congr_left fun stage hstage => ?_).trans (List.map_id stages)
  obtain ⟨followed, relation, rfl⟩ := (List.eq_nil_or_concat' stage).resolve_left fun hnil => h (hnil ▸ hstage)
  rw [Function.comp, joinAt_snoc]
  rfl

namespace Joined

theorem joins_eq (h : Joined registry root joins) : joins = (joins.map (·.relations)).map (joinAt root) := by
  induction h with
  | nil => rfl
  | @snoc joins followed relation _ _ _ _ _ ih =>
    rw [List.map_append, List.map_append, ← ih, List.map_singleton, List.map_singleton]
    exact congrArg (joins ++ [·]) (joinAt_snoc root followed relation).symm

theorem nil_not_mem (h : Joined registry root joins) : [] ∉ joins.map (·.relations) := by
  induction h with
  | nil => exact List.not_mem_nil
  | snoc _ _ _ _ _ ih =>
    rw [List.map_append, List.mem_append, not_or]
    exact ⟨ih, fun hmem => List.append_ne_nil_of_right_ne_nil _ (List.cons_ne_nil _ _) (List.mem_singleton.1 hmem).symm⟩

theorem name_eq_intercalate (h : Joined registry root joins) {join : PlannedJoin} (hjoin : join ∈ joins) :
    join.name = "_".intercalate join.relations := by
  have hne : join.relations ≠ [] := fun hnil => h.nil_not_mem (hnil ▸ List.mem_map_of_mem hjoin)
  obtain ⟨followed, relation, hrelations⟩ := (List.eq_nil_or_concat' join.relations).resolve_left hne
  rw [h.name_eq hjoin, hrelations, qualifier_snoc]

theorem namesApart (h : Joined registry root joins) : NamesApart root (joins.map (·.relations)) := by
  obtain ⟨hroot, hnodup⟩ := List.nodup_cons.1 h.nodup_names
  constructor
  · intro stage hstage other hother hsame
    obtain ⟨join, hjoin, rfl⟩ := List.mem_map.1 hstage
    obtain ⟨join', hjoin', rfl⟩ := List.mem_map.1 hother
    rw [← h.name_eq_intercalate hjoin, ← h.name_eq_intercalate hjoin'] at hsame
    rw [List.inj_on_of_nodup_map hnodup hjoin hjoin' hsame]
  · intro stage hstage hsame
    obtain ⟨join, hjoin, rfl⟩ := List.mem_map.1 hstage
    rw [← h.name_eq_intercalate hjoin] at hsame
    exact hroot (hsame ▸ List.mem_map_of_mem hjoin)

end Joined

theorem known_iff {relations : List String} {plan : Plan} :
    Known plan.joins relations ↔ relations = [] ∨ relations ∈ plan.stages := by
  rw [Known, Plan.stages, List.mem_map]

theorem Sound.ofStages_eq {plan : Plan} (h : Sound registry plan) : ofStages plan.root plan.stages = plan := by
  rw [ofStages, Plan.stages, ← h.joins.joins_eq]

theorem find?_eq_none_iff {plan : Plan} {stage : List String} : plan.find? stage = none ↔ stage ∉ plan.stages := by
  rw [find?, List.find?_eq_none, Plan.stages, List.mem_map]
  simp

/-! ### Following relations -/

/-- The stages of relations that are followed after others. -/
def ahead (followed : List String) : List String → List (List String)
  | [] => []
  | relation :: rest => (followed ++ [relation]) :: ahead (followed ++ [relation]) rest

theorem ahead_eq (followed relations : List String) : ahead followed relations = relations.inits.tail.map (followed ++ ·) := by
  induction relations generalizing followed with
  | nil => rfl
  | cons relation rest ih =>
    have hinits : rest.inits = [] :: rest.inits.tail := by cases rest <;> rfl
    rw [ahead, ih, List.inits_cons, List.tail_cons, List.map_map, hinits, List.map_cons, List.tail_cons]
    simp [Function.comp_def]

theorem ahead_nil (path : FieldPath) : ahead [] path.relations = path.stages := by
  rw [ahead_eq, FieldPath.stages]
  simp

/-- The relations can be followed after others that were followed before. -/
structure Leads (registry : Registry) (plan : Plan) (followed relations : List String) : Prop where
  identifiers : ∀ relation ∈ relations, Text.isIdentifier relation = true
  classes : ∀ relation ∈ relations, registry.contains relation = true
  leaves : followed = [] → relations.head? ≠ some plan.root
  names : NamesApart plan.root (plan.stages ++ ahead followed relations)

theorem leads_cons_iff {plan grown : Plan} {followed rest : List String} {relation : String} (hroot : grown.root = plan.root)
    (hstages : ∀ stage, stage ∈ grown.stages ↔ stage ∈ plan.stages ∨ stage = followed ++ [relation]) :
    Leads registry plan followed (relation :: rest) ↔
      Text.isIdentifier relation = true ∧ registry.contains relation = true ∧ (followed = [] → relation ≠ plan.root) ∧
        Leads registry grown (followed ++ [relation]) rest := by
  have hsame : ∀ stage, stage ∈ plan.stages ++ ahead followed (relation :: rest) ↔
      stage ∈ grown.stages ++ ahead (followed ++ [relation]) rest := by
    intro stage
    rw [List.mem_append, List.mem_append, hstages, ahead, List.mem_cons, or_assoc]
  constructor
  · intro h
    obtain ⟨hrelation, hrelations⟩ := List.forall_mem_cons.1 h.identifiers
    obtain ⟨hclass, hclasses⟩ := List.forall_mem_cons.1 h.classes
    refine ⟨hrelation, hclass, fun hnil heq => h.leaves hnil (congrArg some heq), hrelations, hclasses, ?_, ?_⟩
    · exact fun hnil => absurd hnil (List.append_ne_nil_of_right_ne_nil _ (List.cons_ne_nil _ _))
    · exact hroot ▸ h.names.of_subset fun stage => (hsame stage).2
  · rintro ⟨hrelation, hclass, hleaves, h⟩
    refine ⟨List.forall_mem_cons.2 ⟨hrelation, h.identifiers⟩, List.forall_mem_cons.2 ⟨hclass, h.classes⟩, ?_, ?_⟩
    · exact fun hnil heq => hleaves hnil (Option.some.inj heq)
    · exact (hroot ▸ h.names).of_subset fun stage => (hsame stage).1

/-- A stage that is not there yet can only be joined under a name that is free. -/
theorem name_not_mem {plan : Plan} {stage : List String} (h : Sound registry plan)
    (hnames : NamesApart plan.root (plan.stages ++ [stage])) (hnew : stage ∉ plan.stages) :
    "_".intercalate stage ∉ plan.names := by
  have hstage : stage ∈ plan.stages ++ [stage] := List.mem_append_right _ List.mem_cons_self
  rw [names, List.mem_cons, List.mem_map, not_or]
  refine ⟨hnames.ne_root stage hstage, ?_⟩
  rintro ⟨join, hjoin, hname⟩
  have hold : join.relations ∈ plan.stages := List.mem_map_of_mem hjoin
  rw [h.joins.name_eq_intercalate hjoin] at hname
  have heq := hnames.injective join.relations (List.mem_append_left _ hold) stage hstage hname
  exact hnew (heq ▸ hold)

theorem leads_nil {plan : Plan} (h : Sound registry plan) (followed : List String) : Leads registry plan followed [] where
  identifiers _ hmem := absurd hmem List.not_mem_nil
  classes _ hmem := absurd hmem List.not_mem_nil
  leaves := by rintro - ⟨⟩
  names := by
    rw [ahead, List.append_nil]
    exact h.joins.namesApart

theorem Leads.not_refuses {plan : Plan} {followed rest : List String} {relation : String}
    (hleads : Leads registry plan followed (relation :: rest)) (h : Sound registry plan) :
    ¬ Refuses registry plan followed relation := by
  intro hrefuses
  cases hrefuses with
  | invalid hinvalid => exact hinvalid (hleads.identifiers relation List.mem_cons_self)
  | self hstart hself => exact hleads.leaves hstart (congrArg some hself)
  | unknown _ hunknown => exact hunknown (hleads.classes relation List.mem_cons_self)
  | taken hnew htaken =>
    have hfirst : plan.stages ++ [followed ++ [relation]] ⊆ plan.stages ++ ahead followed (relation :: rest) :=
      ((List.append_sublist_append_left _).2 (List.singleton_sublist.2 List.mem_cons_self)).subset
    exact name_not_mem h (hleads.names.of_subset hfirst) (find?_eq_none_iff.1 hnew) htaken

/-- Following relations succeeds exactly if they can be followed, and then the stages are those before and the new ones. -/
theorem follow_eq_ok_iff (path : FieldPath) {relations followed : List String} {parent name : String} {plan plan' : Plan}
    (h : Sound registry plan) (hknown : Known plan.joins followed) (hparent : parent = qualifier plan.root followed) :
    follow registry path followed parent relations plan = (.ok name, plan') ↔
      Leads registry plan followed relations ∧ name = qualifier plan.root (followed ++ relations) ∧
        plan' = ofStages plan.root (addStages plan.stages (ahead followed relations)) := by
  -- on the relations that are left, as they are followed from a plan that may have grown
  induction relations generalizing followed parent plan with
  | nil =>
    rw [follow, ahead, addStages_nil, h.ofStages_eq, List.append_nil, Prod.mk.injEq, Except.ok.injEq, hparent]
    constructor
    · rintro ⟨rfl, rfl⟩
      exact ⟨leads_nil h followed, rfl, rfl⟩
    · rintro ⟨-, rfl, rfl⟩
      exact ⟨rfl, rfl⟩
  | cons relation rest ih =>
    have hassoc : followed ++ relation :: rest = followed ++ [relation] ++ rest := by
      rw [List.append_assoc, List.singleton_append]
    rw [ahead, hassoc]
    rcases follow_cons registry path followed parent relation rest plan with ⟨hrefuses, e, hstop⟩ | ⟨join, next, hmeets, hstep⟩
    · rw [hstop]
      refine ⟨(fun h => by cases h), ?_⟩
      rintro ⟨hleads, -⟩
      exact absurd hrefuses (hleads.not_refuses h)
    rw [hstep]
    cases hmeets with
    | found hrelation hleaves hfind =>
      obtain ⟨hjoin, hrelations⟩ := joined_of_mem_find? hfind
      have hold : followed ++ [relation] ∈ plan.stages := hrelations ▸ List.mem_map_of_mem hjoin
      have hclass : registry.contains relation = true :=
        h.joins.contains_of_mem (known_iff.2 (.inr hold)) (List.mem_append_right _ List.mem_cons_self)
      have hleads : Leads registry plan followed (relation :: rest) ↔
          Leads registry plan (followed ++ [relation]) rest := by
        rw [leads_cons_iff rfl fun stage => (or_iff_left_of_imp fun heq => heq ▸ hold).symm]
        exact ⟨fun h => h.2.2.2, fun h => ⟨hrelation, hclass, not_and.1 hleaves, h⟩⟩
      have hname : join.name = qualifier plan.root (followed ++ [relation]) := by rw [h.joins.name_eq hjoin, hrelations]
      rw [addStages_cons_of_mem hold, hleads]
      exact ih h (known_iff.2 (.inr hold)) hname
    | joined hrelation hleaves hfind hclass hfree =>
      rw [← qualifier_snoc plan.root] at hfree
      rw [hparent, joinFrom_eq]
      let grown : Plan := { plan with joins := plan.joins ++ [joinOf plan.root followed relation] }
      have hgrown : Sound registry grown := ⟨h.root, h.joins.snoc hknown hrelation hclass hfree⟩
      have hstages : grown.stages = plan.stages ++ [followed ++ [relation]] := List.map_append
      have hmem : ∀ stage, stage ∈ grown.stages ↔ stage ∈ plan.stages ∨ stage = followed ++ [relation] := by
        intro stage
        rw [hstages, List.mem_append, List.mem_singleton]
      have hleads : Leads registry plan followed (relation :: rest) ↔
          Leads registry grown (followed ++ [relation]) rest := by
        rw [leads_cons_iff (show grown.root = plan.root from rfl) hmem]
        exact ⟨fun h => h.2.2.2, fun h => ⟨hrelation, hclass, not_and.1 hleaves, h⟩⟩
      have hnow : Known grown.joins (followed ++ [relation]) :=
        known_iff.2 (.inr (hstages ▸ List.mem_append_right _ List.mem_cons_self))
      rw [addStages_cons_of_not_mem (find?_eq_none_iff.1 hfind), ← hstages, hleads]
      exact ih hgrown hnow rfl

/-! ### Looking columns up -/

theorem covering_nil {plan : Plan} (h : Sound registry plan) : plan.covering [] = plan :=
  h.ofStages_eq

theorem stages_covering {plan : Plan} (h : Sound registry plan) (paths : List FieldPath) :
    (plan.covering paths).stages = addStages plan.stages (paths.flatMap FieldPath.stages) := by
  apply stages_ofStages
  rw [mem_addStages, not_or]
  refine ⟨h.joins.nil_not_mem, fun hmem => ?_⟩
  obtain ⟨path, -, hstage⟩ := List.mem_flatMap.1 hmem
  exact (FieldPath.mem_stages.1 hstage).1 rfl

theorem covering_append {plan : Plan} (h : Sound registry plan) (first second : List FieldPath) :
    plan.covering (first ++ second) = (plan.covering first).covering second := by
  rw [covering, List.flatMap_append, addStages_append, covering, stages_covering h]
  rfl

/-- Paths that were looked up already need no more joins. -/
theorem covering_covering_of_subset {plan : Plan} (h : Sound registry plan) {first second : List FieldPath}
    (hsubset : second ⊆ first) : (plan.covering first).covering second = plan.covering first := by
  have hstages : second.flatMap FieldPath.stages ⊆ addStages plan.stages (first.flatMap FieldPath.stages) := by
    intro stage hstage
    obtain ⟨path, hpath, hstage⟩ := List.mem_flatMap.1 hstage
    exact mem_addStages.2 (.inr (List.mem_flatMap.2 ⟨path, hsubset hpath, hstage⟩))
  rw [← covering_append h, covering, List.flatMap_append, addStages_append, addStages_of_subset hstages, covering]

theorem admits_nil {plan : Plan} (h : Sound registry plan) : plan.Admits registry [] := by
  refine ⟨fun _ hmem => absurd hmem List.not_mem_nil, ?_⟩
  rw [List.flatMap_nil, List.append_nil]
  exact h.joins.namesApart

/-- Paths can be looked up one after the other if the first ones can, and then the others from the plan that they leave. -/
theorem admits_append {plan : Plan} (h : Sound registry plan) (first second : List FieldPath) :
    plan.Admits registry (first ++ second) ↔ plan.Admits registry first ∧ (plan.covering first).Admits registry second := by
  have hsame : ∀ stage, stage ∈ plan.stages ++ (first ++ second).flatMap FieldPath.stages ↔
      stage ∈ (plan.covering first).stages ++ second.flatMap FieldPath.stages := by
    intro stage
    rw [stages_covering h, List.flatMap_append, ← List.append_assoc, List.mem_append, List.mem_append, List.mem_append,
      mem_addStages]
  constructor
  · intro hadmits
    obtain ⟨hfirst, hsecond⟩ := List.forall_mem_append.1 hadmits.admissible
    refine ⟨⟨hfirst, hadmits.names.of_subset fun stage hmem => (hsame stage).2 ?_⟩,
      hsecond, hadmits.names.of_subset fun stage hmem => (hsame stage).2 hmem⟩
    rw [stages_covering h, List.mem_append, mem_addStages]
    exact .inl (List.mem_append.1 hmem)
  · rintro ⟨hfirst, hsecond⟩
    refine ⟨List.forall_mem_append.2 ⟨hfirst.admissible, hsecond.admissible⟩, ?_⟩
    exact hsecond.names.of_subset fun stage hmem => (hsame stage).1 hmem

theorem admits_singleton_iff {plan : Plan} {path : FieldPath} {leaf : String} (hleaf : path.leaf? = some leaf) :
    plan.Admits registry [path] ↔ Text.isIdentifier leaf = true ∧ Leads registry plan [] path.relations := by
  have hsegments : path.segments = path.relations ++ [leaf] := (List.dropLast_append_getLast? leaf hleaf).symm
  constructor
  · intro h
    have hpath := h.admissible path List.mem_cons_self
    have hidentifiers := hpath.identifiers
    rw [hsegments, List.forall_mem_append, List.forall_mem_singleton] at hidentifiers
    refine ⟨hidentifiers.2, hidentifiers.1, hpath.classes, fun _ => hpath.leaves, ?_⟩
    rw [ahead_nil, ← List.flatMap_singleton FieldPath.stages path]
    exact h.names
  · rintro ⟨hidentifier, h⟩
    refine ⟨fun other hother => ?_, ?_⟩
    · obtain rfl := List.mem_singleton.1 hother
      refine ⟨?_, ?_, h.classes, h.leaves rfl⟩
      · rw [hsegments]
        exact List.append_ne_nil_of_right_ne_nil _ (List.cons_ne_nil _ _)
      · rw [hsegments, List.forall_mem_append, List.forall_mem_singleton]
        exact ⟨h.identifiers, hidentifier⟩
    · rw [List.flatMap_singleton, ← ahead_nil]
      exact h.names

/-- A column can be looked up exactly if the path is admitted, and then it is the one at the end of the path. -/
theorem column?_eq_ok_iff {plan plan' : Plan} {path : FieldPath} {index : Nat} {e : Sql.Expr} (h : Sound registry plan) :
    plan.column? registry path index = .ok (e, plan') ↔
      plan.Admits registry [path] ∧ e = path.columnFrom plan.root ∧ plan' = plan.covering [path] := by
  rw [column?, column]
  cases hleaf : path.leaf? with
  | none =>
    refine ⟨(fun h => by cases h), ?_⟩
    rintro ⟨hadmits, -⟩
    exact absurd (List.getLast?_eq_none_iff.1 hleaf) (hadmits.admissible path List.mem_cons_self).segments_ne_nil
  | some leaf =>
    rw [admits_singleton_iff hleaf, FieldPath.columnFrom, hleaf, Option.getD_some]
    cases hcheck : checkIdentifier leaf with
    | error e' =>
      simp only [hcheck]
      refine ⟨(fun h => by cases h), ?_⟩
      rintro ⟨⟨hidentifier, -⟩, -⟩
      rw [(checkIdentifier_eq_error hcheck).1] at hidentifier
      cases hidentifier
    | ok checked =>
      have hidentifier := (checkIdentifier_eq_ok hcheck).1
      have hstart : plan.root = qualifier plan.root [] := rfl
      have hiff : ∀ name grown, follow registry path [] plan.root path.relations plan = (.ok name, grown) ↔
          Leads registry plan [] path.relations ∧ name = qualifier plan.root path.relations ∧
            grown = plan.covering [path] := by
        intro name grown
        rw [follow_eq_ok_iff path h (.inl rfl) hstart, List.nil_append, ahead_nil, covering, List.flatMap_singleton]
      rw [and_iff_right hidentifier]
      cases hfollow : follow registry path [] plan.root path.relations plan with
      | mk result grown =>
        cases result with
        | error e' =>
          simp only [hcheck]
          refine ⟨(fun h => by cases h), ?_⟩
          rintro ⟨hleads, -⟩
          have hok := (hiff _ _).2 ⟨hleads, rfl, rfl⟩
          rw [hfollow] at hok
          cases hok
        | ok name =>
          obtain ⟨hleads, rfl, rfl⟩ := (hiff _ _).1 hfollow
          simp only [hcheck, Except.ok.injEq, Prod.mk.injEq, and_iff_right hleads, eq_comm]

theorem Admits.column?_eq {plan : Plan} {path : FieldPath} (hadmits : plan.Admits registry [path])
    (h : Sound registry plan) (index : Nat) :
    plan.column? registry path index = .ok (path.columnFrom plan.root, plan.covering [path]) :=
  (column?_eq_ok_iff h).2 ⟨hadmits, rfl, rfl⟩

theorem Admits.of_subset {plan : Plan} {paths more : List FieldPath} (h : plan.Admits registry more)
    (hsubset : paths ⊆ more) : plan.Admits registry paths where
  admissible path hpath := h.admissible path (hsubset hpath)
  names := by
    refine h.names.of_subset (List.append_subset.2 ⟨List.subset_append_left _ _, fun stage hstage => ?_⟩)
    obtain ⟨path, hpath, hstage⟩ := List.mem_flatMap.1 hstage
    exact List.mem_append_right _ (List.mem_flatMap.2 ⟨path, hsubset hpath, hstage⟩)

theorem Admits.extends {plan : Plan} {paths : List FieldPath} (h : Sound registry plan)
    (hadmits : plan.Admits registry paths) : Extends registry plan (plan.covering paths) := by
  induction paths generalizing plan with
  | nil =>
    rw [covering_nil h]
    exact .refl h
  | cons path paths ih =>
    obtain ⟨hpath, hpaths⟩ := (admits_append h [path] paths).1 hadmits
    have hextends := (column?_spec h (hpath.column?_eq h 0)).1
    have hrest := hextends.trans (ih hextends.sound hpaths)
    rwa [← covering_append h] at hrest

end Plan

end ObjectStore
