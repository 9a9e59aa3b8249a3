import ObjectStore.Proofs.Query.Acceptance
import ObjectStore.Proofs.Query.Compile
import ObjectStore.Proofs.Tables.Selection

/-!
# The scope of compiled queries

The statement of a compiled query joins one table for each stage of its paths, in the order in which the stages come first, and nothing else. Every column in it stands behind the name of the table that its path leads to. What a condition refers to is found by going through it once more, since a comparison with an empty list is written without its field.
-/

namespace ObjectStore

/-! ### References -/

/-- The column at the end of a path, as it is referred to. -/
def FieldPath.reference (root : String) (path : FieldPath) : Tables.Reference :=
  (some (Plan.qualifier root path.relations), path.leaf?.getD "")

def Value.isEmptyList : Value → Bool
  | list [] => true
  | _ => false

/-- Whether a comparison depends on its field: whatever the field is, it is not in an empty list. -/
def Test.reads (bindings : Bindings) (test : Test) : Bool :=
  match test.operand.resolve bindings with
  | .ok value => !value.isEmptyList
  | .error _ => true

namespace Tables

open Sql.Expr

theorem referencesOfAll_eq_flatMap (es : List Sql.Expr) : referencesOfAll es = es.flatMap references := by
  induction es with
  | nil => rfl
  | cons e es ih => rw [referencesOfAll, ih, List.flatMap_cons]

theorem references_combined {connective : List Sql.Expr → Sql.Expr}
    (h : ∀ es, references (connective es) = referencesOfAll es) (es : List Sql.Expr) :
    references (combined connective es) = referencesOfAll es := by
  match es with
  | [] => exact h []
  | [e] => rw [combined, referencesOfAll, referencesOfAll, List.append_nil]
  | e :: second :: rest => exact h (e :: second :: rest)

end Tables

open Tables

theorem Value.references_of_scalar {listKind : String} {value : Value} {e : Sql.Expr} (h : value.scalar listKind = .ok e) :
    references e.normal = [] := by
  have hdenotes := Value.scalar_denotes h
  rw [hdenotes.normal_eq, Sql.Expr.references_of_value? hdenotes.value_eq]

theorem Value.references_of_scalars {items : List Value} {es : List Sql.Expr} (h : scalars items = .ok es) :
    referencesOfAll (Sql.Expr.normalAll es) = [] := by
  rw [referencesOfAll_eq_flatMap, Sql.Expr.normalAll_eq_map, List.flatMap_map, List.flatMap_eq_nil_iff]
  intro e he
  obtain ⟨item, -, hitem⟩ := exists_of_mem_forall₂ (forall₂_of_mapM h) he
  exact references_of_scalar hitem

/-- A comparison refers to its column, unless it is with an empty list. -/
theorem Comparison.references_of_expr {comparison : Comparison} {qualifier : Option String} {name : String} {value : Value}
    {e : Sql.Expr} (h : comparison.expr (.column qualifier name) value = .ok e) :
    references e.normal = if value.isEmptyList then [] else [(qualifier, name)] := by
  have hvalue : ∀ {operator}, comparison.withValue operator (.column qualifier name) value = .ok e →
      references e.normal = if value.isEmptyList then [] else [(qualifier, name)] := by
    intro operator h
    cases value with
    | null => cases comparison <;> cases h <;> rfl
    | list items => cases h
    | _ =>
      rw [withValue, bind_eq_ok] at h
      · obtain ⟨literal, hliteral, h⟩ := h
        cases h
        rw [Sql.Expr.normal, references, Value.references_of_scalar hliteral, List.append_nil]
        rfl
      · rintro items ⟨⟩
      · rintro ⟨⟩
  have hlist : comparison.withList (.column qualifier name) value = .ok e →
      references e.normal = if value.isEmptyList then [] else [(qualifier, name)] := by
    intro h
    cases value with
    | list items =>
      cases items with
      | nil =>
        cases h
        rfl
      | cons item items =>
        rw [withList, bind_eq_ok] at h
        · obtain ⟨literals, hliterals, h⟩ := h
          cases h
          rw [Sql.Expr.normal, references, Value.references_of_scalars hliterals, List.append_nil]
          rfl
        · rintro ⟨⟩
    | _ => cases h
  cases comparison with
  | inList => exact hlist h
  | notInList => exact hlist h
  | _ => exact hvalue h

namespace Condition

variable {registry : Registry} {bindings : Bindings}

mutual

theorem references_of_expr (condition : Condition) {plan plan' : Plan} {e : Sql.Expr} (hplan : Plan.Sound registry plan)
    (h : condition.expr registry bindings plan = .ok (e, plan')) :
    references e.normal = (condition.tests.filter (·.reads bindings)).map (·.field.reference plan.root) := by
  cases condition with
  | compare field comparison operand =>
    rw [Condition.expr, bind_eq_ok] at h
    obtain ⟨⟨column, grown⟩, hcolumn, h⟩ := h
    obtain ⟨value, hvalue, h⟩ := bind_eq_ok.1 h
    obtain ⟨result, hresult, h⟩ := bind_eq_ok.1 h
    cases h
    obtain ⟨-, rfl, -⟩ := (Plan.column?_eq_ok_iff hplan).1 hcolumn
    have hreads : Test.reads bindings ⟨field, comparison, operand⟩ = !value.isEmptyList := by rw [Test.reads, hvalue]
    rw [Comparison.references_of_expr hresult, tests]
    cases hempty : value.isEmptyList <;> simp [hreads, hempty, FieldPath.reference]
  | all parts =>
    cases parts with
    | nil =>
      cases h
      rfl
    | cons part parts =>
      rw [expr_all, bind_eq_ok] at h
      obtain ⟨⟨es, grown⟩, hes, h⟩ := h
      cases h
      have hparts := references_of_exprs (part :: parts) hplan hes
      rw [Sql.Expr.normal, Sql.Expr.normal, references, references_combined fun _ => rfl, hparts, tests]
  | any parts =>
    cases parts with
    | nil =>
      cases h
      rfl
    | cons part parts =>
      rw [expr_any, bind_eq_ok] at h
      obtain ⟨⟨es, grown⟩, hes, h⟩ := h
      cases h
      have hparts := references_of_exprs (part :: parts) hplan hes
      rw [Sql.Expr.normal, Sql.Expr.normal, references, references_combined fun _ => rfl, hparts, tests]
  | not inner =>
    rw [Condition.expr, bind_eq_ok] at h
    obtain ⟨⟨result, grown⟩, hresult, h⟩ := h
    cases h
    rw [Sql.Expr.normal, Sql.Expr.normal, references, references, references_of_expr inner hplan hresult, tests]

theorem references_of_exprs (parts : List Condition) {plan plan' : Plan} {es : List Sql.Expr} (hplan : Plan.Sound registry plan)
    (h : exprs registry bindings parts plan = .ok (es, plan')) :
    referencesOfAll (Sql.Expr.normalAll es) =
      ((testsOfAll parts).filter (·.reads bindings)).map (·.field.reference plan.root) := by
  cases parts with
  | nil =>
    cases h
    rfl
  | cons part parts =>
    rw [exprs, bind_eq_ok] at h
    obtain ⟨⟨first, grown⟩, hfirst, h⟩ := h
    obtain ⟨⟨rest, last⟩, hrest, h⟩ := bind_eq_ok.1 h
    cases h
    obtain ⟨hextends, -⟩ := expr_decides part hplan hfirst
    rw [Sql.Expr.normalAll, referencesOfAll, references_of_expr part hplan hfirst,
      references_of_exprs parts hextends.sound hrest, hextends.root_eq, testsOfAll, List.filter_append, List.map_append]

end

end Condition

/-! ### Joins -/

namespace Plan

/-- The join for a stage: of the class at its end, under the name of the stage, by the key in the table one relation before. -/
def stageJoin (root : String) (stage : List String) : Sql.Join where
  table := stage.getLastD ""
  name := "_".intercalate stage
  on := .compare .equal (.column (some ("_".intercalate stage)) idColumn)
    (.column (some (qualifier root stage.dropLast)) (stage.getLastD "" ++ "Id"))

theorem joinClause_joinAt (root : String) {stage : List String} (h : stage ≠ []) :
    joinClause (joinAt root stage) = stageJoin root stage := by
  obtain ⟨followed, relation, rfl⟩ := (List.eq_nil_or_concat' stage).resolve_left h
  rw [joinAt_snoc, joinOf, joinClause, stageJoin, qualifier_snoc, List.dropLast_concat, List.getLastD_concat]

theorem Joined.parent_before {registry : Registry} {root : String} {joins : List PlannedJoin} (h : Joined registry root joins)
    {before after : List PlannedJoin} {join : PlannedJoin} (hjoins : joins = before ++ join :: after) :
    Known before join.relations.dropLast := by
  obtain ⟨followed, relation, rfl, hknown, -, -⟩ := h.split hjoins
  rwa [joinOf, List.dropLast_concat]

end Plan

namespace Query

/-- The stages of all paths, in the order in which they come first. -/
def stages (query : Query) : List (List String) :=
  (query.paths.flatMap FieldPath.stages).eraseDups

/-- The fields that the comparisons of the condition depend on. -/
def comparedFields (bindings : Bindings) (query : Query) : List FieldPath :=
  (query.tests.filter (·.reads bindings)).map (·.field)

/-- The selection reads what the query asks for, each column in the table that its path leads to. -/
structure Scoped (query : Query) (bindings : Bindings) (s : Sql.Select) : Prop where
  items : s.items = query.fields.map (·.columnFrom query.source)
  source : s.source = some ⟨query.source, query.stages.map (Plan.stageJoin query.source)⟩
  stages_nodup : query.stages.Nodup
  names_nodup : (query.source :: query.stages.map ("_".intercalate ·)).Nodup
  mem_stages : ∀ stage, stage ∈ query.stages ↔ ∃ path ∈ query.paths, stage ≠ [] ∧ stage <+: path.relations
  parents : ∀ before stage after, query.stages = before ++ stage :: after → stage.dropLast = [] ∨ stage.dropLast ∈ before
  leaves : ∀ path ∈ query.paths, ∃ leaf, path.leaf? = some leaf
  filter : referencesOfAll s.filter.toList = (query.comparedFields bindings).map (·.reference query.source)
  order : s.order = query.orderBy.map (·.term query.source)

variable {registry : Registry} {query : Query} {bindings : Bindings} {compiled : CompiledQuery}

theorem plan_eq (query : Query) : query.plan = Plan.ofStages query.source query.stages := by
  have hstart : (Plan.start query.source).stages = [] := rfl
  rw [plan, Plan.covering, hstart, Plan.addStages_eq, List.nil_append, stages]
  simp [Plan.start]

theorem mem_stages {stage : List String} :
    stage ∈ query.stages ↔ ∃ path ∈ query.paths, stage ≠ [] ∧ stage <+: path.relations := by
  rw [stages, List.mem_eraseDups, List.mem_flatMap]
  simp only [FieldPath.mem_stages]

theorem stage_ne_nil {stage : List String} (h : stage ∈ query.stages) : stage ≠ [] := by
  obtain ⟨path, -, hne, -⟩ := mem_stages.1 h
  exact hne

theorem plan_stages (query : Query) : query.plan.stages = query.stages := by
  rw [plan_eq, Plan.stages_ofStages]
  exact fun hnil => stage_ne_nil hnil rfl

theorem plan_source (query : Query) :
    query.plan.source = ⟨query.source, query.stages.map (Plan.stageJoin query.source)⟩ := by
  rw [plan_eq, Plan.source, Plan.ofStages, List.map_map]
  congr 1
  exact List.map_congr_left fun stage hstage => Plan.joinClause_joinAt query.source (stage_ne_nil hstage)

theorem names_nodup (h : Plan.Sound registry query.plan) :
    (query.source :: query.stages.map ("_".intercalate ·)).Nodup := by
  have hnames : query.plan.joins.map (·.name) = query.stages.map ("_".intercalate ·) := by
    rw [← plan_stages, Plan.stages, List.map_map]
    exact List.map_congr_left fun join hjoin => h.joins.name_eq_intercalate hjoin
  rw [← hnames]
  exact h.joins.nodup_names

theorem parent_before (h : Plan.Sound registry query.plan) {before after : List (List String)} {stage : List String}
    (hstages : query.stages = before ++ stage :: after) : stage.dropLast = [] ∨ stage.dropLast ∈ before := by
  rw [← plan_stages, Plan.stages] at hstages
  obtain ⟨first, rest, hjoins, rfl, hrest⟩ := List.map_eq_append_iff.1 hstages
  obtain ⟨join, last, rfl, rfl, rfl⟩ := List.map_eq_cons_iff.1 hrest
  exact (h.joins.parent_before hjoins).imp_right List.mem_map.2

/-- The text of the condition refers to the fields that its comparisons depend on. -/
theorem references_of_filter {plan plan' : Plan} {filter : Option Sql.Expr} (hplan : Plan.Sound registry plan)
    (h : plan.filterExpr registry bindings query.filter = .ok (filter, plan')) :
    referencesOfAll (filter.map Sql.Expr.normal).toList = (query.comparedFields bindings).map (·.reference plan.root) := by
  rw [comparedFields, tests, List.map_map]
  cases hfilter : query.filter with
  | none =>
    rw [hfilter] at h
    cases h
    rfl
  | some condition =>
    rw [hfilter, Plan.filterExpr, bind_eq_ok] at h
    obtain ⟨grown, hgrown, h⟩ := h
    obtain ⟨⟨e, last⟩, he, h⟩ := bind_eq_ok.1 h
    cases h
    have hextends := Plan.addPaths_spec hplan hgrown
    rw [Option.map_some, Option.toList_some, referencesOfAll, referencesOfAll, List.append_nil,
      condition.references_of_expr hextends.sound he, hextends.root_eq]
    rfl

/-- The text of a compiled query is that of a selection in the scope of its tables. -/
theorem exists_scoped (h : query.compile registry bindings = .ok compiled) :
    ∃ s, Sql.Statement.read? compiled.sql = some (.select s) ∧ query.Scoped bindings s := by
  obtain ⟨final, himplements⟩ := compile_spec h
  have hread := himplements.read?_sql
  have hsource := himplements.source_eq
  obtain ⟨hroot, -, -, hadmits, target, filter, limit, offset, -, hfilter, -, -, rfl⟩ := compile_eq_ok_iff.1 h
  have hstart := Plan.sound_start registry hroot
  have hplan : Plan.Sound registry query.plan := (hadmits.extends hstart).sound
  have hselected := (((admits_paths_iff hroot).1 hadmits).1.extends hstart).sound
  refine ⟨_, hread, rfl, ?_, ?_, names_nodup hplan, fun _ => mem_stages, fun _ _ _ => parent_before hplan, ?_,
    references_of_filter hselected hfilter, rfl⟩
  · rw [← hsource, plan_source]
  · exact List.Nodup.of_map _ (List.nodup_cons.1 (names_nodup hplan)).2
  · intro path hpath
    exact Option.isSome_iff_exists.1 (by simpa [FieldPath.leaf?] using (hadmits.admissible path hpath).segments_ne_nil)

/-- What is selected by the text of a compiled query stays in the scope of its tables. -/
theorem compiled_text_scoped (h : query.compile registry bindings = .ok compiled) :
    compiled.projection = query.fields ∧
      ∃ s, Sql.Statement.read? compiled.sql = some (.select s) ∧ query.Scoped bindings s := by
  obtain ⟨final, himplements⟩ := compile_spec h
  exact ⟨himplements.projection_eq, exists_scoped h⟩

/-- A selection through two relations, with a comparison that does without its field. -/
def peerQuery : Query where
  source := "Contact"
  fields := [⟨["Account", "Contact", "Email"]⟩, ⟨["Email"]⟩]
  filter := some (.any [.not (.compare ⟨["Account", "Name"]⟩ .inList (.list [])),
    .compare ⟨["Account", "Name"]⟩ .like (.bind "pattern")])
  orderBy := [.ascending ⟨["Account", "Contact", "Name"]⟩]
  limit := none
  offset := some 1
  span := .unknown

theorem peerQuery_scoped : ∃ compiled, peerQuery.compile Condition.contactRegistry [("pattern", .string "A%")] = .ok compiled ∧
    compiled.projection = peerQuery.fields ∧
      ∃ s, Sql.Statement.read? compiled.sql = some (.select s) ∧ peerQuery.Scoped [("pattern", .string "A%")] s := by
  have hcompiled : peerQuery.compile Condition.contactRegistry [("pattern", .string "A%")] = .ok _ := rfl
  exact ⟨_, hcompiled, compiled_text_scoped hcompiled⟩

end Query

end ObjectStore
