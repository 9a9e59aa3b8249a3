import ObjectStore.Proofs.Query.Filters
import ObjectStore.Proofs.Query.Stages

/-!
# Which queries are compiled

A query is compiled exactly if it is well formed: each of its clauses can be written on its own, and the names of all stages tell them apart. The condition is gone through twice, once for its joins and once for its text, and the second time finds every join in place. What is asked of the paths and of the operands is asked of each of them, so the order in which they are written does not matter.
-/

namespace ObjectStore

/-! ### Operands -/

/-- The values that a comparison can be with. -/
def Comparison.Takes (comparison : Comparison) (value : Value) : Prop :=
  if comparison = inList ∨ comparison = notInList then ∃ items, value = .list items ∧ ∀ item ∈ items, item.Writable
  else value.Writable ∧ (value = .null → comparison = equal ∨ comparison = notEqual)

/-- A comparison of a field as a condition has it. -/
structure Test where
  field : FieldPath
  comparison : Comparison
  operand : Operand

namespace Condition

mutual

/-- The comparisons of a condition, in the order in which they are written. -/
def tests : Condition → List Test
  | compare field comparison operand => [⟨field, comparison, operand⟩]
  | all parts => testsOfAll parts
  | any parts => testsOfAll parts
  | not inner => inner.tests

def testsOfAll : List Condition → List Test
  | [] => []
  | part :: rest => part.tests ++ testsOfAll rest

end

mutual

theorem fields_eq (condition : Condition) : condition.fields = condition.tests.map (·.field) := by
  cases condition with
  | compare field comparison operand => rfl
  | all parts => exact fieldsOfAll_eq parts
  | any parts => exact fieldsOfAll_eq parts
  | not inner => exact fields_eq inner

theorem fieldsOfAll_eq (parts : List Condition) : fieldsOfAll parts = (testsOfAll parts).map (·.field) := by
  cases parts with
  | nil => rfl
  | cons part rest => rw [fieldsOfAll, testsOfAll, List.map_append, fields_eq part, fieldsOfAll_eq rest]

end

end Condition

/-- Every variable in the operand stands for a value. -/
def Operand.Bound (bindings : Bindings) : Operand → Prop
  | bind name => ∃ value, bindings.lookup name = some value
  | _ => True

/-- The comparison has a value that it can be with. -/
structure Test.Accepted (bindings : Bindings) (test : Test) : Prop where
  bound : test.operand.Bound bindings
  taken : ∀ value, test.operand.resolve bindings = .ok value → test.comparison.Takes value

theorem Operand.bound_iff {bindings : Bindings} {operand : Operand} :
    operand.Bound bindings ↔ ∃ value, operand.resolve bindings = .ok value := by
  cases operand with
  | literal value => exact iff_of_true trivial ⟨_, rfl⟩
  | list items => exact iff_of_true trivial ⟨_, rfl⟩
  | bind name =>
    rw [Bound, resolve]
    cases bindings.lookup name <;> simp

theorem Test.accepted_iff {bindings : Bindings} {test : Test} :
    test.Accepted bindings ↔ ∃ value, test.operand.resolve bindings = .ok value ∧ test.comparison.Takes value := by
  constructor
  · rintro ⟨hbound, htaken⟩
    obtain ⟨value, hvalue⟩ := Operand.bound_iff.1 hbound
    exact ⟨value, hvalue, htaken value hvalue⟩
  · rintro ⟨value, hvalue, htaken⟩
    refine ⟨Operand.bound_iff.2 ⟨value, hvalue⟩, fun other hother => ?_⟩
    rw [hvalue] at hother
    cases hother
    exact htaken

namespace Comparison

variable {comparison : Comparison} {operator : Sql.Operator} {column : Sql.Expr} {value : Value}

theorem withValue_isOk_iff : (∃ e, comparison.withValue operator column value = .ok e) ↔
    value.Writable ∧ (value = .null → comparison = equal ∨ comparison = notEqual) := by
  cases value with
  | null => cases comparison <;> simp [withValue, Value.Writable]
  | list items => simp [withValue, Value.Writable]
  | _ =>
    rw [← Value.scalar_isOk_iff, and_iff_left (by rintro ⟨⟩)]
    simp only [withValue, bind_eq_ok, Except.ok.injEq]
    constructor
    · rintro ⟨_, e, he, -⟩
      exact ⟨e, he⟩
    · rintro ⟨e, he⟩
      exact ⟨_, e, he, rfl⟩

theorem withList_isOk_iff : (∃ e, comparison.withList column value = .ok e) ↔
    ∃ items, value = .list items ∧ ∀ item ∈ items, item.Writable := by
  cases value with
  | list items =>
    cases items with
    | nil => simp [withList]
    | cons item items =>
      simp only [withList, bind_eq_ok, Except.ok.injEq, Value.list.injEq, exists_eq_left', ← Value.scalars_isOk_iff]
      constructor
      · rintro ⟨_, es, hes, -⟩
        exact ⟨es, hes⟩
      · rintro ⟨es, hes⟩
        exact ⟨_, es, hes, rfl⟩
  | _ => simp [withList]

theorem expr_isOk_iff : (∃ e, comparison.expr column value = .ok e) ↔ comparison.Takes value := by
  cases comparison with
  | inList => exact withList_isOk_iff
  | notInList => exact withList_isOk_iff
  | _ => exact withValue_isOk_iff

end Comparison

/-! ### Clauses -/

namespace Condition

variable {registry : Registry} {bindings : Bindings}

mutual

/-- A condition can be written exactly if its fields can be looked up and its comparisons are accepted. -/
theorem expr_isOk_iff (condition : Condition) {plan plan' : Plan} (h : Plan.Sound registry plan) :
    (∃ e, condition.expr registry bindings plan = .ok (e, plan')) ↔
      plan.Admits registry condition.fields ∧ (∀ test ∈ condition.tests, test.Accepted bindings) ∧
        plan' = plan.covering condition.fields := by
  cases condition with
  | compare field comparison operand =>
    rw [fields, tests, List.forall_mem_singleton, Test.accepted_iff]
    constructor
    · rintro ⟨e, he⟩
      rw [Condition.expr, bind_eq_ok] at he
      obtain ⟨⟨column, grown⟩, hcolumn, he⟩ := he
      obtain ⟨value, hvalue, he⟩ := bind_eq_ok.1 he
      obtain ⟨result, hresult, he⟩ := bind_eq_ok.1 he
      cases he
      obtain ⟨hadmits, -, hplan⟩ := (Plan.column?_eq_ok_iff h).1 hcolumn
      exact ⟨hadmits, ⟨value, hvalue, Comparison.expr_isOk_iff.1 ⟨e, hresult⟩⟩, hplan⟩
    · rintro ⟨hadmits, ⟨value, hvalue, htakes⟩, rfl⟩
      obtain ⟨e, he⟩ := Comparison.expr_isOk_iff.2 htakes
      rw [Condition.expr]
      exact ⟨e, bind_eq_ok.2 ⟨_, hadmits.column?_eq h 0, bind_eq_ok.2 ⟨value, hvalue, bind_eq_ok.2 ⟨e, he, rfl⟩⟩⟩⟩
  | all parts =>
    rw [fields, tests, ← exprs_isOk_iff parts h]
    cases parts with
    | nil => simp [Condition.expr, exprs]
    | cons part parts =>
      simp only [expr_all, bind_eq_ok, Except.ok.injEq, Prod.mk.injEq]
      exact ⟨fun ⟨_, ⟨es, _⟩, hes, _, hplan⟩ => ⟨es, hplan ▸ hes⟩, fun ⟨es, hes⟩ => ⟨_, (es, plan'), hes, rfl, rfl⟩⟩
  | any parts =>
    rw [fields, tests, ← exprs_isOk_iff parts h]
    cases parts with
    | nil => simp [Condition.expr, exprs]
    | cons part parts =>
      simp only [expr_any, bind_eq_ok, Except.ok.injEq, Prod.mk.injEq]
      exact ⟨fun ⟨_, ⟨es, _⟩, hes, _, hplan⟩ => ⟨es, hplan ▸ hes⟩, fun ⟨es, hes⟩ => ⟨_, (es, plan'), hes, rfl, rfl⟩⟩
  | not inner =>
    rw [fields, tests, ← expr_isOk_iff inner h]
    simp only [Condition.expr, bind_eq_ok, Except.ok.injEq, Prod.mk.injEq]
    exact ⟨fun ⟨_, ⟨e, _⟩, he, _, hplan⟩ => ⟨e, hplan ▸ he⟩, fun ⟨e, he⟩ => ⟨_, (e, plan'), he, rfl, rfl⟩⟩

theorem exprs_isOk_iff (parts : List Condition) {plan plan' : Plan} (h : Plan.Sound registry plan) :
    (∃ es, exprs registry bindings parts plan = .ok (es, plan')) ↔
      plan.Admits registry (fieldsOfAll parts) ∧ (∀ test ∈ testsOfAll parts, test.Accepted bindings) ∧
        plan' = plan.covering (fieldsOfAll parts) := by
  cases parts with
  | nil =>
    rw [fieldsOfAll, testsOfAll, Plan.covering_nil h]
    simp [exprs, Plan.admits_nil h, eq_comm]
  | cons part parts =>
    rw [fieldsOfAll, testsOfAll, Plan.admits_append h, Plan.covering_append h, List.forall_mem_append]
    constructor
    · rintro ⟨es, hes⟩
      rw [exprs, bind_eq_ok] at hes
      obtain ⟨⟨first, grown⟩, hfirst, hes⟩ := hes
      obtain ⟨⟨rest, last⟩, hrest, hes⟩ := bind_eq_ok.1 hes
      cases hes
      obtain ⟨hadmits, htests, rfl⟩ := (expr_isOk_iff part h).1 ⟨first, hfirst⟩
      obtain ⟨hothers, htests', rfl⟩ := (exprs_isOk_iff parts (hadmits.extends h).sound).1 ⟨rest, hrest⟩
      exact ⟨⟨hadmits, hothers⟩, ⟨htests, htests'⟩, rfl⟩
    · rintro ⟨⟨hadmits, hothers⟩, ⟨htests, htests'⟩, rfl⟩
      obtain ⟨first, hfirst⟩ := (expr_isOk_iff part h).2 ⟨hadmits, htests, rfl⟩
      obtain ⟨rest, hrest⟩ := (exprs_isOk_iff parts (hadmits.extends h).sound).2 ⟨hothers, htests', rfl⟩
      rw [exprs]
      exact ⟨first :: rest, bind_eq_ok.2 ⟨_, hfirst, bind_eq_ok.2 ⟨_, hrest, rfl⟩⟩⟩

end

end Condition

namespace Query

/-- The condition's comparisons; without a condition there are none. -/
def tests (query : Query) : List Test :=
  query.filter.elim [] Condition.tests

def orderFields (query : Query) : List FieldPath :=
  query.orderBy.map (·.field)

/-- All paths of a query, in the order in which they are looked up. -/
def paths (query : Query) : List FieldPath :=
  query.fields ++ query.tests.map (·.field) ++ query.orderFields

end Query

/-- A term of the ordering, for records of a class. -/
def OrderBy.term (root : String) (order : OrderBy) : Sql.OrderTerm :=
  ⟨order.field.columnFrom root, order.direction, order.nulls⟩

namespace Plan

variable {registry : Registry} {plan plan' : Plan}

theorem selectColumns_eq_ok_iff {paths before : List FieldPath} {index : Nat} {items : List Sql.Expr}
    (h : Sound registry plan) :
    plan.selectColumns registry index before paths = .ok (items, plan') ↔
      plan.Admits registry paths ∧ paths.Nodup ∧ (∀ path ∈ paths, path ∉ before) ∧
        items = paths.map (·.columnFrom plan.root) ∧ plan' = plan.covering paths := by
  induction paths generalizing index before plan items with
  | nil =>
    rw [selectColumns, covering_nil h]
    simp [admits_nil h, eq_comm]
  | cons path paths ih =>
    have hsplit : plan.Admits registry (path :: paths) ↔
        plan.Admits registry [path] ∧ (plan.covering [path]).Admits registry paths := admits_append h [path] paths
    have hcovering : plan.covering (path :: paths) = (plan.covering [path]).covering paths :=
      covering_append h [path] paths
    rw [selectColumns, hsplit, hcovering, List.nodup_cons, List.forall_mem_cons, List.map_cons]
    split
    · next hempty =>
      refine ⟨(fun h => by cases h), ?_⟩
      rintro ⟨⟨hadmits, -⟩, -⟩
      exact absurd (List.isEmpty_iff.1 hempty) (hadmits.admissible path List.mem_cons_self).segments_ne_nil
    · split
      · next hbefore =>
        refine ⟨(fun h => by cases h), ?_⟩
        rintro ⟨-, -, ⟨hnew, -⟩, -⟩
        exact absurd hbefore hnew
      · next hnew =>
        constructor
        · intro hok
          obtain ⟨⟨column, grown⟩, hcolumn, hok⟩ := bind_eq_ok.1 hok
          obtain ⟨⟨columns, last⟩, hcolumns, hok⟩ := bind_eq_ok.1 hok
          cases hok
          obtain ⟨hadmits, rfl, rfl⟩ := (column?_eq_ok_iff h).1 hcolumn
          obtain ⟨hrest, hnodup, hapart, rfl, rfl⟩ := (ih (hadmits.extends h).sound).1 hcolumns
          refine ⟨⟨hadmits, hrest⟩, ⟨fun hmem => hapart path hmem List.mem_cons_self, hnodup⟩, ⟨hnew, ?_⟩, rfl, rfl⟩
          exact fun other hother hmem => hapart other hother (List.mem_cons_of_mem _ hmem)
        · rintro ⟨⟨hadmits, hrest⟩, ⟨hfirst, hnodup⟩, ⟨-, hapart⟩, rfl, rfl⟩
          have hnew' : ∀ other ∈ paths, other ∉ path :: before := by
            intro other hother hmem
            rcases List.mem_cons.1 hmem with rfl | hmem
            · exact hfirst hother
            · exact hapart other hother hmem
          have hcolumns : (plan.covering [path]).selectColumns registry (index + 1) (path :: before) paths =
              .ok (paths.map (·.columnFrom plan.root), (plan.covering [path]).covering paths) :=
            (ih (hadmits.extends h).sound).2 ⟨hrest, hnodup, hnew', rfl, rfl⟩
          exact bind_eq_ok.2 ⟨_, hadmits.column?_eq h index, bind_eq_ok.2 ⟨_, hcolumns, rfl⟩⟩

theorem addPaths_eq_ok_iff {paths : List FieldPath} {index : Nat} (h : Sound registry plan) :
    plan.addPaths registry index paths = .ok plan' ↔ plan.Admits registry paths ∧ plan' = plan.covering paths := by
  induction paths generalizing index plan with
  | nil =>
    rw [addPaths, covering_nil h]
    simp [admits_nil h, eq_comm]
  | cons path paths ih =>
    have hsplit : plan.Admits registry (path :: paths) ↔
        plan.Admits registry [path] ∧ (plan.covering [path]).Admits registry paths := admits_append h [path] paths
    have hcovering : plan.covering (path :: paths) = (plan.covering [path]).covering paths :=
      covering_append h [path] paths
    rw [addPaths, hsplit, hcovering]
    constructor
    · intro hok
      obtain ⟨⟨column, grown⟩, hcolumn, hok⟩ := bind_eq_ok.1 hok
      obtain ⟨hadmits, rfl, rfl⟩ := (column?_eq_ok_iff h).1 hcolumn
      obtain ⟨hrest, hplan⟩ := (ih (hadmits.extends h).sound).1 hok
      exact ⟨⟨hadmits, hrest⟩, hplan⟩
    · rintro ⟨⟨hadmits, hrest⟩, rfl⟩
      exact bind_eq_ok.2 ⟨_, hadmits.column?_eq h index, (ih (hadmits.extends h).sound).2 ⟨hrest, rfl⟩⟩

/-- The second pass over a condition finds every join that it needs. -/
theorem filterExpr_isOk_iff {bindings : Bindings} {query : Query} (h : Sound registry plan) :
    (∃ filter, plan.filterExpr registry bindings query.filter = .ok (filter, plan')) ↔
      plan.Admits registry (query.tests.map (·.field)) ∧ (∀ test ∈ query.tests, test.Accepted bindings) ∧
        plan' = plan.covering (query.tests.map (·.field)) := by
  rw [Query.tests]
  cases query.filter with
  | none =>
    rw [Option.elim_none, List.map_nil, covering_nil h]
    simp [filterExpr, admits_nil h, eq_comm]
  | some condition =>
    rw [Option.elim_some, ← condition.fields_eq]
    constructor
    · rintro ⟨filter, hfilter⟩
      rw [filterExpr, bind_eq_ok] at hfilter
      obtain ⟨grown, hgrown, hfilter⟩ := hfilter
      obtain ⟨⟨e, last⟩, he, hfilter⟩ := bind_eq_ok.1 hfilter
      cases hfilter
      obtain ⟨hadmits, rfl⟩ := (addPaths_eq_ok_iff h).1 hgrown
      obtain ⟨-, htests, rfl⟩ := (condition.expr_isOk_iff (hadmits.extends h).sound).1 ⟨e, he⟩
      exact ⟨hadmits, htests, covering_covering_of_subset h (List.Subset.refl _)⟩
    · rintro ⟨hadmits, htests, rfl⟩
      have hgrown : plan.addPaths registry 0 condition.fields = .ok (plan.covering condition.fields) :=
        (addPaths_eq_ok_iff h).2 ⟨hadmits, rfl⟩
      have hsame := covering_covering_of_subset h (List.Subset.refl condition.fields)
      have hagain : (plan.covering condition.fields).Admits registry condition.fields := by
        have htwice : plan.Admits registry (condition.fields ++ condition.fields) := by
          refine ⟨List.forall_mem_append.2 ⟨hadmits.admissible, hadmits.admissible⟩, hadmits.names.of_subset ?_⟩
          simp
        exact ((admits_append h _ _).1 htwice).2
      obtain ⟨e, he⟩ := (condition.expr_isOk_iff (hadmits.extends h).sound).2 ⟨hagain, htests, hsame.symm⟩
      exact ⟨some e, bind_eq_ok.2 ⟨_, hgrown, bind_eq_ok.2 ⟨_, he, rfl⟩⟩⟩

theorem orderTerms_eq_ok_iff {orders : List OrderBy} {index : Nat} {terms : List Sql.OrderTerm} (h : Sound registry plan) :
    plan.orderTerms registry index orders = .ok (terms, plan') ↔
      plan.Admits registry (orders.map (·.field)) ∧ terms = orders.map (·.term plan.root) ∧
        plan' = plan.covering (orders.map (·.field)) := by
  induction orders generalizing index plan terms with
  | nil =>
    rw [orderTerms, List.map_nil, covering_nil h]
    simp [admits_nil h, eq_comm]
  | cons order orders ih =>
    have hsplit : plan.Admits registry (order.field :: orders.map (·.field)) ↔
        plan.Admits registry [order.field] ∧ (plan.covering [order.field]).Admits registry (orders.map (·.field)) :=
      admits_append h [order.field] _
    have hcovering : plan.covering (order.field :: orders.map (·.field)) =
        (plan.covering [order.field]).covering (orders.map (·.field)) := covering_append h [order.field] _
    rw [orderTerms, List.map_cons, hsplit, hcovering, List.map_cons]
    constructor
    · intro hok
      obtain ⟨⟨column, grown⟩, hcolumn, hok⟩ := bind_eq_ok.1 hok
      obtain ⟨⟨rest, last⟩, hrest, hok⟩ := bind_eq_ok.1 hok
      cases hok
      obtain ⟨hadmits, rfl, rfl⟩ := (column?_eq_ok_iff h).1 hcolumn
      obtain ⟨hothers, rfl, rfl⟩ := (ih (hadmits.extends h).sound).1 hrest
      exact ⟨⟨hadmits, hothers⟩, rfl, rfl⟩
    · rintro ⟨⟨hadmits, hothers⟩, rfl, rfl⟩
      have hterms : (plan.covering [order.field]).orderTerms registry (index + 1) orders =
          .ok (orders.map (·.term plan.root), (plan.covering [order.field]).covering (orders.map (·.field))) :=
        (ih (hadmits.extends h).sound).2 ⟨hothers, rfl, rfl⟩
      exact bind_eq_ok.2 ⟨_, hadmits.column?_eq h index, bind_eq_ok.2 ⟨_, hterms, rfl⟩⟩

end Plan

/-- The greatest number of rows that a store can be asked for. -/
def maxRowCount : Nat := 0x7fffffffffffffff

theorem isSome_int64?_iff {n : Nat} : (Number.int64? n).isSome = true ↔ n ≤ maxRowCount := by
  rw [Number.int64?, maxRowCount, Option.isSome_ite, Bool.and_eq_true, decide_eq_true_eq, decide_eq_true_eq]
  omega

theorem rowCount_isOk_iff {clause : String} {rows : Option UInt64} :
    (∃ count, rowCount clause rows = .ok count) ↔ ∀ n ∈ rows, n.toNat ≤ maxRowCount := by
  simp only [← isSome_int64?_iff]
  -- whatever way of reading numbers it is: opening this one would count down from its bound
  obtain ⟨read, hread⟩ : ∃ read, Number.int64? = read := ⟨_, rfl⟩
  rw [rowCount.eq_def, hread]
  cases rows with
  | none => simp
  | some n => cases h : read n.toNat <;> simp [h]

namespace Query

/-! ### Queries -/

/-- The plan with which a query is compiled in the end. -/
def plan (query : Query) : Plan :=
  (Plan.start query.source).covering query.paths

variable {registry : Registry} {query : Query} {bindings : Bindings}

/-- All paths can be looked up if those of each clause can be, after those of the clauses before it. -/
theorem admits_paths_iff (h : Text.isIdentifier query.source = true) :
    (Plan.start query.source).Admits registry query.paths ↔
      (Plan.start query.source).Admits registry query.fields ∧
        ((Plan.start query.source).covering query.fields).Admits registry (query.tests.map (·.field)) ∧
        ((Plan.start query.source).covering (query.fields ++ query.tests.map (·.field))).Admits registry query.orderFields := by
  have hstart := Plan.sound_start registry h
  rw [paths, Plan.admits_append hstart, Plan.admits_append hstart, and_assoc]

theorem compile_eq_ok_iff {compiled : CompiledQuery} :
    query.compile registry bindings = .ok compiled ↔
      Text.isIdentifier query.source = true ∧ query.fields ≠ [] ∧ query.fields.Nodup ∧
        (Plan.start query.source).Admits registry query.paths ∧
        ∃ target filter limit offset, registry.lookup? query.source = some target ∧
          ((Plan.start query.source).covering query.fields).filterExpr registry bindings query.filter =
            .ok (filter, (Plan.start query.source).covering (query.fields ++ query.tests.map (·.field))) ∧
          rowCount "LIMIT" query.limit = .ok limit ∧ rowCount "OFFSET" query.offset = .ok offset ∧
          compiled = ⟨⟨query.fields.map (·.columnFrom query.source), some query.plan.source, filter,
            query.orderBy.map (·.term query.source), paging limit offset⟩, query.fields, target⟩ := by
  constructor
  · intro h
    simp only [compile, bind_eq_ok] at h
    obtain ⟨source, hsource, target, htarget, h⟩ := h
    obtain ⟨hroot, rfl⟩ := checkIdentifier_eq_ok hsource
    have hstart := Plan.sound_start registry hroot
    split at h
    · cases h
    · next hfields =>
      simp only [bind_eq_ok] at h
      obtain ⟨⟨items, selected⟩, hitems, ⟨filter, filtered⟩, hfilter, ⟨order, ordered⟩, horder, limit, hlimit, offset,
        hoffset, h⟩ := h
      cases h
      obtain ⟨hselected, hnodup, -, rfl, rfl⟩ := (Plan.selectColumns_eq_ok_iff hstart).1 hitems
      have hsound := (hselected.extends hstart).sound
      obtain ⟨hfiltered, -, hplan⟩ := (Plan.filterExpr_isOk_iff hsound).1 ⟨filter, hfilter⟩
      rw [← Plan.covering_append hstart] at hplan
      subst hplan
      have hboth := (Plan.admits_append hstart _ _).2 ⟨hselected, hfiltered⟩
      obtain ⟨hordered, rfl, rfl⟩ := (Plan.orderTerms_eq_ok_iff (hboth.extends hstart).sound).1 horder
      rw [← Plan.covering_append hstart]
      rw [List.isEmpty_iff] at hfields
      exact ⟨hroot, hfields, hnodup, (admits_paths_iff hroot).2 ⟨hselected, hfiltered, hordered⟩, target, filter, limit,
        offset, Registry.lookup?_of_resolve htarget, hfilter, hlimit, hoffset, rfl⟩
  · rintro ⟨hroot, hfields, hnodup, hadmits, target, filter, limit, offset, htarget, hfilter, hlimit, hoffset, rfl⟩
    have hstart := Plan.sound_start registry hroot
    obtain ⟨hselected, hfiltered, hordered⟩ := (admits_paths_iff hroot).1 hadmits
    have hboth := (Plan.admits_append hstart _ _).2 ⟨hselected, hfiltered⟩
    have hsource : checkIdentifier query.source = .ok query.source := if_pos hroot
    have hresolve : registry.resolve query.source = .ok target := by rw [Registry.resolve, htarget]
    have hitems : (Plan.start query.source).selectColumns registry 0 [] query.fields =
        .ok (query.fields.map (·.columnFrom query.source), (Plan.start query.source).covering query.fields) :=
      (Plan.selectColumns_eq_ok_iff hstart).2 ⟨hselected, hnodup, fun _ _ => List.not_mem_nil, rfl, rfl⟩
    have horder : ((Plan.start query.source).covering (query.fields ++ query.tests.map (·.field))).orderTerms registry 0
        query.orderBy = .ok (query.orderBy.map (·.term query.source), query.plan) := by
      refine (Plan.orderTerms_eq_ok_iff (hboth.extends hstart).sound).2 ⟨hordered, rfl, ?_⟩
      rw [plan, paths, Plan.covering_append hstart]
      rfl
    rw [compile]
    refine bind_eq_ok.2 ⟨_, hsource, bind_eq_ok.2 ⟨_, hresolve, ?_⟩⟩
    rw [if_neg (mt List.isEmpty_iff.1 hfields)]
    exact bind_eq_ok.2 ⟨_, hitems, bind_eq_ok.2 ⟨_, hfilter, bind_eq_ok.2 ⟨_, horder, bind_eq_ok.2 ⟨_, hlimit,
      bind_eq_ok.2 ⟨_, hoffset, rfl⟩⟩⟩⟩⟩

/-- What a query must be like to be compiled. -/
structure WellFormed (registry : Registry) (bindings : Bindings) (query : Query) : Prop where
  source : Text.isIdentifier query.source = true
  registered : registry.contains query.source = true
  fields_ne_nil : query.fields ≠ []
  fields_nodup : query.fields.Nodup
  paths : ∀ path ∈ query.paths, path.Admissible registry query.source
  names : Plan.NamesApart query.source (query.paths.flatMap FieldPath.stages)
  tests : ∀ test ∈ query.tests, test.Accepted bindings
  limit : ∀ n ∈ query.limit, n.toNat ≤ maxRowCount
  offset : ∀ n ∈ query.offset, n.toNat ≤ maxRowCount

/-- The same selection in another order, with the comparisons of the condition put together in another way. -/
structure Reordered (query other : Query) : Prop where
  source_eq : other.source = query.source
  fields : other.fields.Perm query.fields
  tests : other.tests.Perm query.tests
  orderBy : other.orderBy.Perm query.orderBy
  limit_eq : other.limit = query.limit
  offset_eq : other.offset = query.offset

theorem compile_isOk_iff :
    (∃ compiled, query.compile registry bindings = .ok compiled) ↔ query.WellFormed registry bindings := by
  have hstages : (Plan.start query.source).stages = [] := rfl
  constructor
  · rintro ⟨compiled, h⟩
    obtain ⟨hroot, hfields, hnodup, hadmits, target, filter, limit, offset, htarget, hfilter, hlimit, hoffset, -⟩ :=
      compile_eq_ok_iff.1 h
    have hstart := Plan.sound_start registry hroot
    have hselected := ((admits_paths_iff hroot).1 hadmits).1
    obtain ⟨-, htests, -⟩ := (Plan.filterExpr_isOk_iff (hselected.extends hstart).sound).1 ⟨filter, hfilter⟩
    refine ⟨hroot, Option.isSome_of_eq_some htarget, hfields, hnodup, hadmits.admissible, ?_, htests,
      rowCount_isOk_iff.1 ⟨limit, hlimit⟩, rowCount_isOk_iff.1 ⟨offset, hoffset⟩⟩
    have hnames := hadmits.names
    rwa [hstages, List.nil_append] at hnames
  · rintro ⟨hroot, hregistered, hfields, hnodup, hpaths, hnames, htests, hlimit, hoffset⟩
    have hstart := Plan.sound_start registry hroot
    have hadmits : (Plan.start query.source).Admits registry query.paths := by
      refine ⟨hpaths, ?_⟩
      rwa [hstages, List.nil_append]
    obtain ⟨hselected, hfiltered, -⟩ := (admits_paths_iff hroot).1 hadmits
    obtain ⟨target, htarget⟩ := Option.isSome_iff_exists.1 hregistered
    obtain ⟨filter, hfilter⟩ := (Plan.filterExpr_isOk_iff (hselected.extends hstart).sound).2 ⟨hfiltered, htests, rfl⟩
    obtain ⟨limit, hlimit⟩ := rowCount_isOk_iff.2 hlimit
    obtain ⟨offset, hoffset⟩ := rowCount_isOk_iff.2 hoffset
    rw [← Plan.covering_append hstart] at hfilter
    exact ⟨_, compile_eq_ok_iff.2 ⟨hroot, hfields, hnodup, hadmits, target, filter, limit, offset, htarget, hfilter, hlimit,
      hoffset, rfl⟩⟩

theorem Reordered.symm {other : Query} (h : query.Reordered other) : other.Reordered query :=
  ⟨h.source_eq.symm, h.fields.symm, h.tests.symm, h.orderBy.symm, h.limit_eq.symm, h.offset_eq.symm⟩

theorem Reordered.paths_perm {other : Query} (h : query.Reordered other) : other.paths.Perm query.paths :=
  (h.fields.append (h.tests.map _)).append (h.orderBy.map _)

/-- Nothing that a query must be like depends on the order in which its parts are written. -/
theorem WellFormed.of_reordered {other : Query} (h : query.WellFormed registry bindings) (hother : query.Reordered other) :
    other.WellFormed registry bindings where
  source := hother.source_eq ▸ h.source
  registered := hother.source_eq ▸ h.registered
  fields_ne_nil hnil := h.fields_ne_nil (List.Perm.nil_eq (hnil ▸ hother.fields)).symm
  fields_nodup := hother.fields.nodup_iff.2 h.fields_nodup
  paths path hpath := hother.source_eq ▸ h.paths path (hother.paths_perm.mem_iff.1 hpath)
  names := by
    rw [hother.source_eq]
    exact h.names.of_subset (hother.paths_perm.flatMap_right _).subset
  tests test htest := h.tests test (hother.tests.mem_iff.1 htest)
  limit := hother.limit_eq ▸ h.limit
  offset := hother.offset_eq ▸ h.offset

/-- A query is compiled exactly if it is well formed, in whatever order its parts are written. -/
theorem compiled_iff_wellFormed (registry : Registry) (bindings : Bindings) (query : Query) :
    ((∃ compiled, query.compile registry bindings = .ok compiled) ↔ query.WellFormed registry bindings) ∧
      ∀ other, query.Reordered other → ((∃ compiled, other.compile registry bindings = .ok compiled) ↔
        ∃ compiled, query.compile registry bindings = .ok compiled) := by
  refine ⟨compile_isOk_iff, fun other hother => ?_⟩
  rw [compile_isOk_iff, compile_isOk_iff]
  exact ⟨fun h => h.of_reordered hother.symm, fun h => h.of_reordered hother⟩

/-- A query that meets the related record in its last field, its last comparison and its last term. -/
def ownFirst : Query where
  source := "Contact"
  fields := [⟨["Email"]⟩, ⟨["Account", "Name"]⟩]
  filter := some (.all [.compare ⟨["Email"]⟩ .notEqual (.literal .null),
    .compare ⟨["Account", "Name"]⟩ .inList (.list [.string "Acme", .null])])
  orderBy := [.ascending ⟨["Email"]⟩, .descending ⟨["Account", "Name"]⟩]
  limit := some 10
  offset := none
  span := .unknown

/-- The same query with the related record first. -/
def relatedFirst : Query where
  source := "Contact"
  fields := [⟨["Account", "Name"]⟩, ⟨["Email"]⟩]
  filter := some (.all [.compare ⟨["Account", "Name"]⟩ .inList (.list [.string "Acme", .null]),
    .compare ⟨["Email"]⟩ .notEqual (.literal .null)])
  orderBy := [.descending ⟨["Account", "Name"]⟩, .ascending ⟨["Email"]⟩]
  limit := some 10
  offset := none
  span := .unknown

theorem relatedFirst_compiled :
    ownFirst.Reordered relatedFirst ∧ ∃ compiled, relatedFirst.compile Condition.contactRegistry [] = .ok compiled := by
  have hother : ownFirst.Reordered relatedFirst := ⟨rfl, .swap .., .swap .., .swap .., rfl, rfl⟩
  obtain ⟨-, hsame⟩ := compiled_iff_wellFormed Condition.contactRegistry [] ownFirst
  exact ⟨hother, (hsame relatedFirst hother).2 ⟨_, rfl⟩⟩

end Query

end ObjectStore
