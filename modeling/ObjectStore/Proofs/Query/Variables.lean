import ObjectStore.Proofs.Query.Acceptance
import ObjectStore.Proofs.Query.Placement

/-!
# Variables and their values

A variable in a condition stands for the value that is bound to it. A scalar and a list of scalars can also be written as operands of their own, and with these in place of its variables a query is compiled to the same result as before, or refused for the same reason: the operands come to the same values, and nothing but operands looks at what is bound.
-/

namespace ObjectStore

/-! ### Writing values -/

namespace Value

/-- Whether a value is a scalar or a list of scalars. -/
def isFlat : Value → Bool
  | list items => items.all isScalar
  | value => value.isScalar

/-- The literal of a scalar. -/
def literal? : Value → Option Literal
  | null => some .null
  | string s => some (.string s)
  | integer n => some (.integer n)
  | double d => some (.double d)
  | boolean b => some (.boolean b)
  | object _ _ => none
  | list _ => none

/-- The operand of a scalar or of a list of scalars. -/
def operand? : Value → Option Operand
  | list items => (items.mapM literal?).map .list
  | value => value.literal?.map .literal

theorem exists_literal? {value : Value} (h : value.isScalar = true) :
    ∃ literal, value.literal? = some literal ∧ ofLiteral literal = value := by
  cases value with
  | object className fields => cases h
  | list items => cases h
  | _ => exact ⟨_, rfl, rfl⟩

theorem exists_literals? {items : List Value} (h : ∀ item ∈ items, item.isScalar = true) :
    ∃ literals, items.mapM literal? = some literals ∧ literals.map ofLiteral = items := by
  induction items with
  | nil => exact ⟨[], rfl, rfl⟩
  | cons item items ih =>
    obtain ⟨hitem, hitems⟩ := List.forall_mem_cons.1 h
    obtain ⟨literal, hliteral, hvalue⟩ := exists_literal? hitem
    obtain ⟨literals, hliterals, hvalues⟩ := ih hitems
    refine ⟨literal :: literals, ?_, by rw [List.map_cons, hvalue, hvalues]⟩
    rw [List.mapM_cons, hliteral, hliterals]
    rfl

/-- A flat value has an operand, which needs no variable to come to this value. -/
theorem exists_operand? {value : Value} (h : value.isFlat = true) (bindings : Bindings) :
    ∃ operand, value.operand? = some operand ∧ operand.resolve bindings = .ok value ∧
      ∀ name, operand ≠ .bind name := by
  cases value with
  | list items =>
    obtain ⟨literals, hliterals, hvalues⟩ := exists_literals? (List.all_eq_true.1 h)
    exact ⟨.list literals, by rw [operand?, hliterals]; rfl, by rw [Operand.resolve, hvalues], by simp⟩
  | object className fields => cases h
  | _ => exact ⟨_, rfl, rfl, by simp⟩

end Value

/-! ### Operands -/

namespace Operand

/-- The variable that the operand is. -/
def variableNames : Operand → List String
  | bind name => [name]
  | _ => []

/-- The operand with a variable's value in its place, where that can be written. -/
def written (bindings : Bindings) : Operand → Operand
  | bind name => ((bindings.lookup name).bind Value.operand?).getD (bind name)
  | operand => operand

end Operand

/-- Each of the names is bound to a flat value. -/
def Bindings.Flat (bindings : Bindings) (names : List String) : Prop :=
  ∀ name ∈ names, ∃ value, bindings.lookup name = some value ∧ value.isFlat = true

namespace Operand

variable {bindings : Bindings} {operand : Operand}

theorem resolve_written (h : bindings.Flat operand.variableNames) (others : Bindings) :
    (operand.written bindings).resolve others = operand.resolve bindings := by
  cases operand with
  | bind name =>
    obtain ⟨value, hlookup, hflat⟩ := h name List.mem_cons_self
    obtain ⟨operand, hoperand, hresolve, -⟩ := Value.exists_operand? hflat others
    rw [written, hlookup, Option.bind_some, hoperand, Option.getD_some, hresolve, resolve, hlookup]
  | _ => rfl

theorem variableNames_written (h : bindings.Flat operand.variableNames) : (operand.written bindings).variableNames = [] := by
  cases operand with
  | bind name =>
    obtain ⟨value, hlookup, hflat⟩ := h name List.mem_cons_self
    obtain ⟨operand, hoperand, -, hfree⟩ := Value.exists_operand? hflat []
    rw [written, hlookup, Option.bind_some, hoperand, Option.getD_some]
    cases operand with
    | bind other => exact absurd rfl (hfree other)
    | _ => rfl
  | _ => rfl

end Operand

/-! ### Conditions -/

/-- The comparison with its operand written. -/
def Test.written (bindings : Bindings) (test : Test) : Test :=
  { test with operand := test.operand.written bindings }

namespace Condition

/-- The variables of a condition, as often as they are used. -/
def variableNames (condition : Condition) : List String :=
  condition.tests.flatMap fun test => test.operand.variableNames

mutual

/-- The condition with the values of its variables in their places. -/
def written (bindings : Bindings) : Condition → Condition
  | compare field comparison operand => compare field comparison (operand.written bindings)
  | all parts => all (writtenAll bindings parts)
  | any parts => any (writtenAll bindings parts)
  | not inner => not (inner.written bindings)

def writtenAll (bindings : Bindings) : List Condition → List Condition
  | [] => []
  | part :: rest => part.written bindings :: writtenAll bindings rest

end

variable {registry : Registry} {bindings : Bindings}

mutual

/-- Nothing about the comparisons is changed but their operands. -/
theorem tests_written (bindings : Bindings) (condition : Condition) :
    (condition.written bindings).tests = condition.tests.map (Test.written bindings) := by
  cases condition with
  | compare field comparison operand => rfl
  | all parts => exact testsOfAll_written bindings parts
  | any parts => exact testsOfAll_written bindings parts
  | not inner => exact tests_written bindings inner

theorem testsOfAll_written (bindings : Bindings) (parts : List Condition) :
    testsOfAll (writtenAll bindings parts) = (testsOfAll parts).map (Test.written bindings) := by
  cases parts with
  | nil => rfl
  | cons part rest =>
    rw [writtenAll, testsOfAll, testsOfAll, List.map_append, tests_written bindings part, testsOfAll_written bindings rest]

end

theorem fields_written (bindings : Bindings) (condition : Condition) :
    (condition.written bindings).fields = condition.fields := by
  rw [fields_eq, fields_eq, tests_written, List.map_map]
  rfl

theorem variableNames_written {condition : Condition} (h : bindings.Flat condition.variableNames) :
    (condition.written bindings).variableNames = [] := by
  rw [variableNames, List.flatMap_eq_nil_iff]
  intro test htest
  rw [tests_written] at htest
  obtain ⟨original, horiginal, rfl⟩ := List.mem_map.1 htest
  exact Operand.variableNames_written fun name hname => h name (List.mem_flatMap.2 ⟨original, horiginal, hname⟩)

mutual

/-- The filter of a condition does not depend on whether its values are bound or written. -/
theorem expr_written (condition : Condition) (h : bindings.Flat condition.variableNames) (plan : Plan) :
    (condition.written bindings).expr registry [] plan = condition.expr registry bindings plan := by
  cases condition with
  | compare field comparison operand =>
    have hoperand : bindings.Flat operand.variableNames := by simpa [variableNames, tests] using h
    rw [written, Condition.expr, Condition.expr, Operand.resolve_written hoperand]
  | all parts =>
    cases parts with
    | nil => rfl
    | cons part parts =>
      have hparts := exprs_written (part :: parts) h plan
      rw [writtenAll] at hparts
      rw [written, writtenAll, expr_all, expr_all, hparts]
  | any parts =>
    cases parts with
    | nil => rfl
    | cons part parts =>
      have hparts := exprs_written (part :: parts) h plan
      rw [writtenAll] at hparts
      rw [written, writtenAll, expr_any, expr_any, hparts]
  | not inner => rw [written, Condition.expr, Condition.expr, expr_written inner h plan]

theorem exprs_written (parts : List Condition)
    (h : bindings.Flat ((testsOfAll parts).flatMap fun test => test.operand.variableNames)) (plan : Plan) :
    exprs registry [] (writtenAll bindings parts) plan = exprs registry bindings parts plan := by
  cases parts with
  | nil => rfl
  | cons part parts =>
    rw [testsOfAll, List.flatMap_append] at h
    obtain ⟨hpart, hparts⟩ := List.forall_mem_append.1 h
    rw [writtenAll, exprs, exprs, expr_written part hpart plan]
    congr 1
    funext ⟨first, grown⟩
    dsimp only
    rw [exprs_written parts hparts grown]

end

end Condition

/-! ### Queries -/

namespace Query

/-- The variables of the query's condition. -/
def variableNames (query : Query) : List String :=
  query.filter.toList.flatMap Condition.variableNames

/-- The query with the values of the variables in their places. -/
def written (bindings : Bindings) (query : Query) : Query :=
  { query with filter := query.filter.map (Condition.written bindings) }

end Query

theorem Plan.filterExpr_written {registry : Registry} {bindings : Bindings} {filter : Option Condition}
    (h : bindings.Flat (filter.toList.flatMap Condition.variableNames)) (plan : Plan) :
    plan.filterExpr registry [] (filter.map (Condition.written bindings)) = plan.filterExpr registry bindings filter := by
  cases filter with
  | none => rfl
  | some condition =>
    have hcondition : bindings.Flat condition.variableNames := by simpa using h
    rw [Option.map_some, filterExpr, filterExpr, Condition.fields_written]
    congr 1
    funext grown
    rw [Condition.expr_written condition hcondition grown]

/-- A query whose variables are bound to scalars and lists of scalars compiles to the same result, or fails for the same reason, as the query without variables in which these values are written. -/
theorem Query.compile_written_values {query : Query} {bindings : Bindings} (h : bindings.Flat query.variableNames)
    (registry : Registry) :
    (query.written bindings).variableNames = [] ∧
      (query.written bindings).compile registry [] = query.compile registry bindings := by
  constructor
  · rw [variableNames, List.flatMap_eq_nil_iff]
    intro condition hcondition
    obtain ⟨original, horiginal, rfl⟩ := Option.map_eq_some_iff.1 (Option.mem_toList.1 hcondition)
    exact Condition.variableNames_written fun name hname =>
      h name (List.mem_flatMap.2 ⟨original, Option.mem_toList.2 horiginal, hname⟩)
  · have hfilter : ∀ plan : Plan, plan.filterExpr registry [] (query.written bindings).filter =
        plan.filterExpr registry bindings query.filter := Plan.filterExpr_written h
    rw [compile, compile]
    simp only [hfilter]
    rfl

/-- A query with a variable at every depth of its condition, one of them for a list. -/
def memberQuery : Query :=
  (Query.select "Contact" [⟨["LastName"]⟩]).filtered (.not (.any [
    .compare ⟨["Account", "Name"]⟩ .inList (.bind "names"),
    .all [.compare ⟨["Age"]⟩ .atLeast (.bind "age"), .compare ⟨["Email"]⟩ .notEqual (.bind "none")]]))

def memberBindings : Bindings :=
  [("age", .integer 30), ("none", .null), ("names", .list [.string "it's", .null, .boolean true])]

theorem memberQuery_written : memberBindings.Flat memberQuery.variableNames ∧
    ∃ compiled, memberQuery.compile Condition.contactRegistry memberBindings = .ok compiled ∧
      (memberQuery.written memberBindings).variableNames = [] ∧
      (memberQuery.written memberBindings).compile Condition.contactRegistry [] = .ok compiled := by
  have hflat : memberBindings.Flat memberQuery.variableNames :=
    List.forall_mem_cons.2 ⟨⟨_, rfl, rfl⟩, List.forall_mem_cons.2 ⟨⟨_, rfl, rfl⟩, List.forall_mem_singleton.2 ⟨_, rfl, rfl⟩⟩⟩
  obtain ⟨hwritten, hcompile⟩ := Query.compile_written_values hflat Condition.contactRegistry
  have hcompiled : memberQuery.compile Condition.contactRegistry memberBindings = .ok _ := rfl
  exact ⟨hflat, _, hcompiled, hwritten, hcompile.trans hcompiled⟩

end ObjectStore
