import ObjectStore.Proofs.Query.Plans
import ObjectStore.Proofs.Results
import ObjectStore.Proofs.Sql.Literals
import ObjectStore.Proofs.Sql.Parsing
import ObjectStore.Query.Compile

/-!
# Filters mean what conditions mean

A condition has a truth value of its own on a row: that of its comparisons, combined as in three-valued logic over any number of parts. The text of the filter that is compiled from it is read, with the precedence of the operators, as an expression with the same truth value on every row. The parentheses around combined parts keep the reader from regrouping them, and the literals are operands that no comparison can take apart.
-/

namespace ObjectStore

open Tables

/-! ### Truth of conditions -/

namespace Tables.Truth

/-- Whether all of any number of parts are true: false if any part is, else absent if any part is. -/
def conjunction (parts : List Truth) : Truth :=
  if some false ∈ parts then some false else if none ∈ parts then none else some true

/-- Whether any of any number of parts is true: true if any part is, else absent if any part is. -/
def disjunction (parts : List Truth) : Truth :=
  if some true ∈ parts then some true else if none ∈ parts then none else some false

theorem foldr_and (parts : List Truth) : parts.foldr Truth.and (some true) = conjunction parts := by
  induction parts with
  | nil => rfl
  | cons part parts ih =>
    rw [List.foldr_cons, ih, conjunction, conjunction]
    rcases part with _ | _ | _ <;> by_cases hfalse : some false ∈ parts <;> by_cases hnone : none ∈ parts <;>
      simp [hfalse, hnone, Truth.and]

theorem foldr_or (parts : List Truth) : parts.foldr Truth.or (some false) = disjunction parts := by
  induction parts with
  | nil => rfl
  | cons part parts ih =>
    rw [List.foldr_cons, ih, disjunction, disjunction]
    rcases part with _ | _ | _ <;> by_cases htrue : some true ∈ parts <;> by_cases hnone : none ∈ parts <;>
      simp [htrue, hnone, Truth.or]

theorem truthOf_toCell (t : Truth) : truthOf t.toCell = t := by
  rcases t with _ | _ | _ <;> rfl

end Tables.Truth

/-- How two cells compare, if both are there. -/
def comparedOrder (left right : Affinity × Cell) : Option Ordering :=
  match left.1.align right.1 left.2 right.2 with
  | (.null, _) => none
  | (_, .null) => none
  | (l, r) => some (cellOrder l r)

namespace Comparison

/-- The truth of a comparison with a single cell. -/
def test (comparison : Comparison) (subject item : Affinity × Cell) : Truth :=
  match comparison with
  | equal => (comparedOrder subject item).map (· == .eq)
  | notEqual => (comparedOrder subject item).map (· != .eq)
  | less => (comparedOrder subject item).map (· == .lt)
  | atMost => (comparedOrder subject item).map (· != .gt)
  | greater => (comparedOrder subject item).map (· == .gt)
  | atLeast => (comparedOrder subject item).map (· != .lt)
  | like => Tables.like subject.2 item.2
  | inList => (comparedOrder subject item).map (· == .eq)
  | notInList => (comparedOrder subject item).map (· != .eq)

/-- The truth of a comparison of a column with a value: equality with null asks whether the cell is absent, and a column is in a list if it equals any of its elements. -/
def truth (comparison : Comparison) (subject : Affinity × Cell) : Value → Truth
  | .null =>
    match comparison with
    | equal => some (subject.2 == .null)
    | notEqual => some (subject.2 != .null)
    | _ => none
  | .list items =>
    let found := Truth.disjunction (items.map fun item => equal.test subject (.none, item.cell))
    if comparison = notInList then found.not else found
  | value => comparison.test subject (.none, value.cell)

private theorem compareCells_eq {operator : Sql.Operator} (h : operator ≠ .like) (subject item : Affinity × Cell) :
    compareCells operator subject item = (comparedOrder subject item).map (operatorHolds operator) := by
  unfold compareCells comparedOrder
  generalize subject.1.align item.1 subject.2 item.2 = cells
  obtain ⟨left, right⟩ := cells
  cases operator with
  | like => exact absurd rfl h
  | _ => cases left <;> cases right <;> rfl

theorem compareCells_eq_test {comparison : Comparison} {operator : Sql.Operator}
    (h : comparison.operator? = some operator) (subject item : Affinity × Cell) :
    compareCells operator subject item = comparison.test subject item := by
  cases comparison with
  | like =>
    cases h
    rfl
  | inList => cases h
  | notInList => cases h
  | _ =>
    cases h
    exact compareCells_eq (by decide) subject item

theorem isIn_eq (subject : Affinity × Cell) (items : List Value) :
    isIn subject (items.map Value.cell) =
      Truth.disjunction (items.map fun item => equal.test subject (.none, item.cell)) := by
  rw [← Truth.foldr_or, List.foldr_map]
  induction items with
  | nil => rfl
  | cons item items ih => rw [List.map_cons, isIn, ih, List.foldr_cons, compareCells_eq (by decide)]; rfl

end Comparison

namespace Condition

mutual

/-- The truth of a condition on a row of the tables that the root and its relations name. -/
def truth (bindings : Bindings) (root : String) (scope : Scope) : Condition → Truth
  | compare field comparison operand =>
    match field.leaf?, operand.resolve bindings with
    | some leaf, .ok value => comparison.truth (scope.cell (some (Plan.qualifier root field.relations)) leaf) value
    | _, _ => none
  | all parts => Truth.conjunction (truths bindings root scope parts)
  | any parts => Truth.disjunction (truths bindings root scope parts)
  | not inner => (truth bindings root scope inner).not

def truths (bindings : Bindings) (root : String) (scope : Scope) : List Condition → List Truth
  | [] => []
  | part :: parts => truth bindings root scope part :: truths bindings root scope parts

end

end Condition

/-! ### Truth of filters -/

/-- The expression can be read where a condition is due, and then has the given truth value on every row. -/
structure Sql.Expr.Decides (e : Sql.Expr) (truth : Scope → Truth) : Prop where
  phrase : Sql.Phrase .negated e
  truth_eq : ∀ scope, truthOf (eval scope e.normal).2 = truth scope

theorem Value.scalars_spec {items : List Value} {literals : List Sql.Expr} (h : Value.scalars items = .ok literals) :
    literals.length = items.length ∧ (∀ e ∈ literals, Sql.Phrase .disjoined e) ∧
      Sql.Expr.normalAll literals = literals ∧ ∀ scope, evalAll scope literals = items.map Value.cell := by
  have hdenote : List.Forall₂ (fun value e => Sql.Expr.Denotes e value) items literals :=
    (forall₂_of_mapM h).imp fun _ _ => Value.scalar_denotes
  clear h
  induction hdenote with
  | nil => exact ⟨rfl, by simp, rfl, fun _ => rfl⟩
  | @cons value literal values others hliteral _ ih =>
    obtain ⟨hlength, hphrases, hnormal, heval⟩ := ih
    refine ⟨congrArg (· + 1) hlength, fun e he => ?_, ?_, fun scope => ?_⟩
    · rcases List.mem_cons.1 he with rfl | he
      · exact .ofConjoined (.ofNegated (.ofJoined hliteral.phrase))
      · exact hphrases e he
    · rw [Sql.Expr.normalAll, hliteral.normal_eq, hnormal]
    · rw [evalAll, hliteral.eval_eq, heval, List.map_cons]

theorem Comparison.expr_decides {comparison : Comparison} {qualifier leaf : String} {value : Value} {e : Sql.Expr}
    (hqualifier : Text.isIdentifier qualifier = true) (hleaf : Text.isIdentifier leaf = true)
    (h : comparison.expr (.column (some qualifier) leaf) value = .ok e) :
    e.Decides fun scope => comparison.truth (scope.cell (some qualifier) leaf) value := by
  rw [Comparison.expr] at h
  cases hoperator : comparison.operator? with
  | some operator =>
    rw [hoperator] at h
    -- a value that is neither null nor a list is written as its literal
    have hscalar : ∀ literal, value.scalar "List" = .ok literal →
        (Sql.Expr.compare operator (.column (some qualifier) leaf) literal).Decides fun scope =>
          comparison.test (scope.cell (some qualifier) leaf) (.none, value.cell) := by
      intro literal hliteral
      have hdenotes := Value.scalar_denotes hliteral
      refine ⟨.compare operator hqualifier hleaf hdenotes.phrase, fun scope => ?_⟩
      rw [Sql.Expr.normal, Sql.Expr.normal, hdenotes.normal_eq, eval, eval, hdenotes.eval_eq, Truth.truthOf_toCell,
        compareCells_eq_test hoperator]
    cases value with
    | list items => cases h
    | null =>
      have hnull : ∀ negated, (Sql.Expr.isNull negated (.column (some qualifier) leaf)).Decides fun scope =>
          some (((scope.cell (some qualifier) leaf).2 == .null) != negated) :=
        fun negated => ⟨.isNull negated hqualifier hleaf, fun scope => Truth.truthOf_toCell _⟩
      cases comparison with
      | equal =>
        cases h
        refine ⟨(hnull false).phrase, fun scope => ((hnull false).truth_eq scope).trans ?_⟩
        rw [Bool.bne_false]
        rfl
      | notEqual =>
        cases h
        refine ⟨(hnull true).phrase, fun scope => ((hnull true).truth_eq scope).trans ?_⟩
        rw [Bool.bne_true]
        rfl
      | _ => cases h
    | object className fields => cases h
    | _ =>
      obtain ⟨literal, hliteral, h⟩ := bind_eq_ok.1 h
      cases h
      exact hscalar literal hliteral
  | none =>
    rw [hoperator] at h
    have hcases : comparison = .inList ∨ comparison = .notInList := by
      cases comparison with
      | inList => exact .inl rfl
      | notInList => exact .inr rfl
      | _ => cases hoperator
    cases value with
    | list items =>
      cases items with
      | nil =>
        cases h
        refine ⟨.ofJoined (.ofOperand (.integer _)), fun scope => ?_⟩
        rcases hcases with rfl | rfl <;> rfl
      | cons item items =>
        obtain ⟨literals, hliterals, h⟩ := bind_eq_ok.1 h
        cases h
        obtain ⟨hlength, hphrases, hnormal, heval⟩ := Value.scalars_spec hliterals
        have hne : literals ≠ [] := List.ne_nil_of_length_eq_add_one hlength
        have hsubject : ∀ scope, eval scope (.column (some qualifier) leaf) = scope.cell (some qualifier) leaf :=
          fun _ => rfl
        refine ⟨.inList _ hqualifier hleaf hne hphrases, fun scope => ?_⟩
        rw [Sql.Expr.normal, Sql.Expr.normal, hnormal, eval, heval, hsubject, isIn_eq, Truth.truthOf_toCell]
        rcases hcases with rfl | rfl <;> rfl
    | _ => cases h

/-! ### Connectives -/

theorem evalAll_eq_map (scope : Scope) (es : List Sql.Expr) : evalAll scope es = es.map fun e => (eval scope e).2 := by
  induction es with
  | nil => rfl
  | cons e es ih => rw [evalAll, ih, List.map_cons]

private theorem foldr_truthOf (connective : Truth → Truth → Truth) (start : Truth) (scope : Scope) (es : List Sql.Expr) :
    (evalAll scope es).foldr (fun cell t => connective (truthOf cell) t) start =
      (es.map fun e => truthOf (eval scope e).2).foldr connective start := by
  rw [evalAll_eq_map, List.foldr_map, List.foldr_map]

theorem truthOf_combined_all (scope : Scope) {es : List Sql.Expr} (hne : es ≠ []) :
    truthOf (eval scope (Sql.Expr.combined .all es)).2 = Truth.conjunction (es.map fun e => truthOf (eval scope e).2) := by
  have hall : truthOf (eval scope (.all es)).2 = Truth.conjunction (es.map fun e => truthOf (eval scope e).2) := by
    rw [eval, Truth.truthOf_toCell, foldr_truthOf, Truth.foldr_and]
  cases es with
  | nil => exact absurd rfl hne
  | cons e others =>
    cases others with
    | nil =>
      rw [Sql.Expr.combined, List.map_singleton]
      rcases truthOf (eval scope e).2 with _ | _ | _ <;> rfl
    | cons second others => exact hall

theorem truthOf_combined_any (scope : Scope) {es : List Sql.Expr} (hne : es ≠ []) :
    truthOf (eval scope (Sql.Expr.combined .any es)).2 = Truth.disjunction (es.map fun e => truthOf (eval scope e).2) := by
  have hany : truthOf (eval scope (.any es)).2 = Truth.disjunction (es.map fun e => truthOf (eval scope e).2) := by
    rw [eval, Truth.truthOf_toCell, foldr_truthOf, Truth.foldr_or]
  cases es with
  | nil => exact absurd rfl hne
  | cons e others =>
    cases others with
    | nil =>
      rw [Sql.Expr.combined, List.map_singleton]
      rcases truthOf (eval scope e).2 with _ | _ | _ <;> rfl
    | cons second others => exact hany

/-- Expressions that decide the truths of a list, one for each. -/
def DecideAll (truths : Scope → List Truth) (es : List Sql.Expr) : Prop :=
  (∀ e ∈ es, Sql.Phrase .negated e) ∧ ∀ scope, (es.map fun e => truthOf (eval scope e.normal).2) = truths scope

theorem DecideAll.nil : DecideAll (fun _ => []) [] :=
  ⟨fun _ he => absurd he List.not_mem_nil, fun _ => rfl⟩

theorem Sql.Expr.Decides.cons {truth : Scope → Truth} {truths : Scope → List Truth} {e : Sql.Expr} {es : List Sql.Expr}
    (h : e.Decides truth) (hall : DecideAll truths es) : DecideAll (fun scope => truth scope :: truths scope) (e :: es) := by
  refine ⟨fun other hother => ?_, fun scope => ?_⟩
  · rcases List.mem_cons.1 hother with rfl | hother
    · exact h.phrase
    · exact hall.1 other hother
  · rw [List.map_cons, h.truth_eq, hall.2]

theorem DecideAll.group_all {truths : Scope → List Truth} {es : List Sql.Expr} (h : DecideAll truths es) (hne : es ≠ []) :
    (Sql.Expr.group (.all es)).Decides fun scope => Truth.conjunction (truths scope) := by
  refine ⟨.ofJoined (.ofOperand (.group (.ofConjoined (.all hne h.1)))), fun scope => ?_⟩
  rw [Sql.Expr.normal, Sql.Expr.normal, eval, truthOf_combined_all scope, Sql.Expr.normalAll_eq_map, List.map_map,
    ← h.2 scope]
  · rfl
  · rwa [Sql.Expr.normalAll_eq_map, Ne, List.map_eq_nil_iff]

theorem DecideAll.group_any {truths : Scope → List Truth} {es : List Sql.Expr} (h : DecideAll truths es) (hne : es ≠ []) :
    (Sql.Expr.group (.any es)).Decides fun scope => Truth.disjunction (truths scope) := by
  refine ⟨.ofJoined (.ofOperand (.group (.any hne fun e he => .ofNegated (h.1 e he)))), fun scope => ?_⟩
  rw [Sql.Expr.normal, Sql.Expr.normal, eval, truthOf_combined_any scope, Sql.Expr.normalAll_eq_map, List.map_map,
    ← h.2 scope]
  · rfl
  · rwa [Sql.Expr.normalAll_eq_map, Ne, List.map_eq_nil_iff]

theorem Sql.Expr.Decides.not_group {truth : Scope → Truth} {e : Sql.Expr} (h : e.Decides truth) :
    (Sql.Expr.not (.group e)).Decides fun scope => (truth scope).not := by
  refine ⟨.not (.ofJoined (.ofOperand (.group (.ofConjoined (.ofNegated h.phrase))))), fun scope => ?_⟩
  rw [Sql.Expr.normal, Sql.Expr.normal, eval, eval, Truth.truthOf_toCell, h.truth_eq]

/-! ### Conditions -/

namespace Condition

variable {registry : Registry} {bindings : Bindings}

theorem expr_all (part : Condition) (parts : List Condition) (plan : Plan) :
    (all (part :: parts)).expr registry bindings plan =
      exprs registry bindings (part :: parts) plan >>= fun result => .ok (.group (.all result.1), result.2) := by
  rw [Condition.expr, exprs, bind_assoc]
  simp only [bind_assoc]
  rfl

theorem expr_any (part : Condition) (parts : List Condition) (plan : Plan) :
    (any (part :: parts)).expr registry bindings plan =
      exprs registry bindings (part :: parts) plan >>= fun result => .ok (.group (.any result.1), result.2) := by
  rw [Condition.expr, exprs, bind_assoc]
  simp only [bind_assoc]
  rfl

private theorem exprs_ne_nil {part : Condition} {parts : List Condition} {plan plan' : Plan} {es : List Sql.Expr}
    (h : exprs registry bindings (part :: parts) plan = .ok (es, plan')) : es ≠ [] := by
  rw [exprs, bind_eq_ok] at h
  obtain ⟨⟨first, grown⟩, -, h⟩ := h
  obtain ⟨⟨rest, last⟩, -, h⟩ := bind_eq_ok.1 h
  cases h
  exact List.cons_ne_nil _ _

mutual

/-- The filter of a condition decides it, and the plan is extended by the joins that it needs. -/
theorem expr_decides (condition : Condition) {plan plan' : Plan} {e : Sql.Expr} (hplan : Plan.Sound registry plan)
    (h : condition.expr registry bindings plan = .ok (e, plan')) :
    Plan.Extends registry plan plan' ∧ e.Decides fun scope => condition.truth bindings plan.root scope := by
  cases condition with
  | compare field comparison operand =>
    rw [Condition.expr, bind_eq_ok] at h
    obtain ⟨⟨column, grown⟩, hcolumn, h⟩ := h
    obtain ⟨hextends, leaf, hleaf, hidentifier, hknown, rfl⟩ := Plan.column?_spec hplan hcolumn
    obtain ⟨value, hvalue, h⟩ := bind_eq_ok.1 h
    obtain ⟨result, hresult, h⟩ := bind_eq_ok.1 h
    cases h
    have hqualifier := hextends.sound.joins.isIdentifier_qualifier hextends.sound.root hknown
    have hdecides := Comparison.expr_decides hqualifier hidentifier hresult
    refine ⟨hextends, ?_⟩
    simpa only [truth, hleaf, hvalue, hextends.root_eq] using hdecides
  | all parts =>
    cases parts with
    | nil =>
      cases h
      exact ⟨.refl hplan, .ofJoined (.ofOperand (.integer _)), fun _ => rfl⟩
    | cons part parts =>
      rw [expr_all, bind_eq_ok] at h
      obtain ⟨⟨es, grown⟩, hes, h⟩ := h
      cases h
      obtain ⟨hextends, hall⟩ := exprs_decide (part :: parts) hplan hes
      exact ⟨hextends, hall.group_all (exprs_ne_nil hes)⟩
  | any parts =>
    cases parts with
    | nil =>
      cases h
      exact ⟨.refl hplan, .ofJoined (.ofOperand (.integer _)), fun _ => rfl⟩
    | cons part parts =>
      rw [expr_any, bind_eq_ok] at h
      obtain ⟨⟨es, grown⟩, hes, h⟩ := h
      cases h
      obtain ⟨hextends, hall⟩ := exprs_decide (part :: parts) hplan hes
      exact ⟨hextends, hall.group_any (exprs_ne_nil hes)⟩
  | not inner =>
    rw [Condition.expr, bind_eq_ok] at h
    obtain ⟨⟨result, grown⟩, hresult, h⟩ := h
    cases h
    obtain ⟨hextends, hdecides⟩ := expr_decides inner hplan hresult
    exact ⟨hextends, hdecides.not_group⟩

theorem exprs_decide (parts : List Condition) {plan plan' : Plan} {es : List Sql.Expr} (hplan : Plan.Sound registry plan)
    (h : exprs registry bindings parts plan = .ok (es, plan')) :
    Plan.Extends registry plan plan' ∧ DecideAll (fun scope => truths bindings plan.root scope parts) es := by
  cases parts with
  | nil =>
    cases h
    exact ⟨.refl hplan, .nil⟩
  | cons part parts =>
    rw [exprs, bind_eq_ok] at h
    obtain ⟨⟨first, grown⟩, hfirst, h⟩ := h
    obtain ⟨⟨rest, last⟩, hrest, h⟩ := bind_eq_ok.1 h
    cases h
    obtain ⟨hextends, hdecides⟩ := expr_decides part hplan hfirst
    obtain ⟨hlast, hall⟩ := exprs_decide parts hextends.sound hrest
    rw [hextends.root_eq] at hall
    exact ⟨hextends.trans hlast, hdecides.cons hall⟩

end

/-- The text of the filter that is compiled from a condition, whatever plan it starts from, is read as an expression that is true, false or absent on a row as the condition is. -/
theorem truth_of_filter_text {registry : Registry} {plan plan' : Plan} (hplan : Plan.Reachable registry plan)
    (bindings : Bindings) (condition : Condition) {e : Sql.Expr}
    (hcompiled : condition.expr registry bindings plan = .ok (e, plan')) :
    ∃ read, Sql.Expr.parse? e.render = some read ∧
      ∀ scope, truthOf (eval scope read).2 = condition.truth bindings plan.root scope := by
  obtain ⟨-, hdecides⟩ := expr_decides condition hplan.sound hcompiled
  exact ⟨e.normal, Sql.Expr.parse?_render (.ofConjoined (.ofNegated hdecides.phrase)), hdecides.truth_eq⟩

/-- A condition with parts of every kind, whose operands hold a quote, a control character and a variable. -/
def nestedCondition : Condition :=
  .not (.any [
    .all [.compare ⟨["Account", "Name"]⟩ .equal (.literal (.string "it's\n")),
      .compare ⟨["Email"]⟩ .notEqual (.bind "none")],
    .all [], .any [.compare ⟨["Age"]⟩ .notInList (.list [])]])

def nestedBindings : Bindings := [("none", .null)]

def contactRegistry : Registry := ⟨[.bare "Account", .bare "Contact"]⟩

theorem truth_of_nested_filter_text : ∃ e plan',
    nestedCondition.expr contactRegistry nestedBindings (Plan.start "Contact") = .ok (e, plan') ∧
      ∃ read, Sql.Expr.parse? e.render = some read ∧
        ∀ scope, truthOf (eval scope read).2 = nestedCondition.truth nestedBindings "Contact" scope := by
  have hcompiled : ∃ e plan',
      nestedCondition.expr contactRegistry nestedBindings (Plan.start "Contact") = .ok (e, plan') := ⟨_, _, rfl⟩
  obtain ⟨e, plan', hcompiled⟩ := hcompiled
  exact ⟨e, plan', hcompiled, truth_of_filter_text (.start (by decide)) nestedBindings nestedCondition hcompiled⟩

end Condition

end ObjectStore
