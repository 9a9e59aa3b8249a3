import ObjectStore.Dml.Executor
import ObjectStore.Proofs.Class.Registries
import ObjectStore.Proofs.Query.Plans
import ObjectStore.Query.Compile

/-!
# Queries after further registrations

Compiling a query only asks a registry for classes that must be there. So whatever was compiled is compiled to the same when more classes have been registered, and changes to records of a registered class are applied in the same way.
-/

namespace ObjectStore

variable {registry later : Registry}

theorem Registry.Grown.resolve (h : registry.Grown later) (name : String) :
    Keeps (registry.resolve name) (later.resolve name) := by
  intro c hc
  rw [Registry.resolve] at hc ⊢
  split at hc
  · next found hfound =>
    rw [h.lookup? hfound]
    exact hc
  · cases hc

theorem Registry.Grown.contains (h : registry.Grown later) {name : String} (hname : registry.contains name = true) :
    later.contains name = true := by
  obtain ⟨c, hc⟩ := Option.isSome_iff_exists.1 hname
  rw [Registry.contains, h.lookup? hc]
  rfl

namespace Plan

theorem Meets.of_grown {plan next : Plan} {followed : List String} {parent relation : String} {join : PlannedJoin}
    (hmeets : Meets registry plan followed parent relation join next) (h : registry.Grown later) :
    Meets later plan followed parent relation join next := by
  cases hmeets with
  | found hrelation hleaves hfind => exact .found hrelation hleaves hfind
  | joined hrelation hleaves hnew hclass hfree => exact .joined hrelation hleaves hnew (h.contains hclass) hfree

theorem follow_keeps (h : registry.Grown later) (path : FieldPath) {relations followed : List String}
    {parent name : String} {plan grown : Plan}
    (hok : follow registry path followed parent relations plan = (.ok name, grown)) :
    follow later path followed parent relations plan = (.ok name, grown) := by
  induction relations generalizing followed parent plan with
  | nil => exact hok
  | cons relation rest ih =>
    rcases follow_cons registry path followed parent relation rest plan with ⟨-, e, hstop⟩ | ⟨join, next, hmeets, hstep⟩
    · rw [hstop] at hok
      cases hok
    · rw [hstep] at hok
      rw [follow_of_meets (hmeets.of_grown h)]
      exact ih hok

theorem column?_keeps (h : registry.Grown later) (path : FieldPath) (index : Nat) (plan : Plan) :
    Keeps (plan.column? registry path index) (plan.column? later path index) := by
  rw [column?, column?, column, column]
  cases path.leaf? with
  | none => exact .refl _
  | some leaf =>
    dsimp only
    cases checkIdentifier leaf with
    | error e => exact .refl _
    | ok _ =>
      dsimp only
      rcases hfollow : follow registry path [] plan.root path.relations plan with ⟨e | name, grown⟩
      · intro result hresult
        cases hresult
      · rw [follow_keeps h path hfollow]
        exact .refl _

end Plan

namespace Condition

variable (bindings : Bindings)

mutual

theorem expr_keeps (h : registry.Grown later) :
    ∀ (condition : Condition) plan, Keeps (condition.expr registry bindings plan) (condition.expr later bindings plan)
  | compare field comparison operand, plan => by
    rw [expr, expr]
    exact (Plan.column?_keeps h field 0 plan).bind fun _ => .refl _
  | all [], plan => by
    rw [expr, expr]
    exact .refl _
  | all (part :: parts), plan => by
    rw [expr, expr]
    exact (expr_keeps h part plan).bind fun first => (exprs_keeps h parts first.2).bind fun _ => .refl _
  | any [], plan => by
    rw [expr, expr]
    exact .refl _
  | any (part :: parts), plan => by
    rw [expr, expr]
    exact (expr_keeps h part plan).bind fun first => (exprs_keeps h parts first.2).bind fun _ => .refl _
  | not inner, plan => by
    rw [expr, expr]
    exact (expr_keeps h inner plan).bind fun _ => .refl _

theorem exprs_keeps (h : registry.Grown later) :
    ∀ parts plan, Keeps (exprs registry bindings parts plan) (exprs later bindings parts plan)
  | [], plan => by
    rw [exprs, exprs]
    exact .refl _
  | part :: parts, plan => by
    rw [exprs, exprs]
    exact (expr_keeps h part plan).bind fun first => (exprs_keeps h parts first.2).bind fun _ => .refl _

end

end Condition

namespace Plan

theorem selectColumns_keeps (h : registry.Grown later) {paths before : List FieldPath} {index : Nat} {plan : Plan} :
    Keeps (selectColumns registry index before paths plan) (selectColumns later index before paths plan) := by
  induction paths generalizing before index plan with
  | nil => exact .refl _
  | cons path rest ih =>
    rw [selectColumns, selectColumns]
    split
    · exact .refl _
    · split
      · exact .refl _
      · exact (column?_keeps h path index plan).bind fun _ => ih.bind fun _ => .refl _

theorem addPaths_keeps (h : registry.Grown later) {paths : List FieldPath} {index : Nat} {plan : Plan} :
    Keeps (addPaths registry index paths plan) (addPaths later index paths plan) := by
  induction paths generalizing index plan with
  | nil => exact .refl _
  | cons path rest ih =>
    rw [addPaths, addPaths]
    exact (column?_keeps h path index plan).bind fun _ => ih

theorem filterExpr_keeps (h : registry.Grown later) (bindings : Bindings) (filter : Option Condition) (plan : Plan) :
    Keeps (filterExpr registry bindings filter plan) (filterExpr later bindings filter plan) := by
  cases filter with
  | none => exact .refl _
  | some condition =>
    rw [filterExpr, filterExpr]
    exact (addPaths_keeps h).bind fun plan => (condition.expr_keeps bindings h plan).bind fun _ => .refl _

theorem orderTerms_keeps (h : registry.Grown later) {orders : List OrderBy} {index : Nat} {plan : Plan} :
    Keeps (orderTerms registry index orders plan) (orderTerms later index orders plan) := by
  induction orders generalizing index plan with
  | nil => exact .refl _
  | cons order rest ih =>
    rw [orderTerms, orderTerms]
    exact (column?_keeps h order.field index plan).bind fun _ => ih.bind fun _ => .refl _

end Plan

/-- A query that was compiled is compiled to the same after further registrations. -/
theorem Query.compile_keeps (h : registry.Grown later) (query : Query) (bindings : Bindings) :
    Keeps (query.compile registry bindings) (query.compile later bindings) := by
  rw [compile, compile]
  refine (Keeps.refl _).bind fun source => (h.resolve source).bind fun target => ?_
  split
  · exact .refl _
  · exact (Plan.selectColumns_keeps h).bind fun _ => (Plan.filterExpr_keeps h _ _ _).bind fun _ =>
      (Plan.orderTerms_keeps h).bind fun _ => .refl _

theorem Dml.execute_of_grown (h : registry.Grown later) {intent : Intent} {target : ClassType}
    (htarget : registry.resolve intent.target = .ok target) {σ : Type} (store : Store σ) (mode : Mode)
    (deadline : Deadline) (world : World σ) :
    execute store mode deadline later intent world = execute store mode deadline registry intent world := by
  rw [execute, execute, htarget, h.resolve intent.target target htarget]

end ObjectStore
