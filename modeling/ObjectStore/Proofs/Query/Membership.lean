import ObjectStore.Proofs.Query.Acceptance

/-!
# Lists in conditions

A field is in a list if it equals one of the elements, and not in it if it differs from all of them. Written as one comparison with the list, this is left to the store, for which an absent value neither equals nor differs from anything; written out element by element, a null asks whether the field is absent. So the two ways agree on lists without a null. A null in a list finds no row, and keeps every row from being found if the comparison with the list is negated.
-/

namespace ObjectStore

open Tables

/-! ### Truth of many parts -/

namespace Tables.Truth

theorem disjunction_eq_true_iff {parts : List Truth} : disjunction parts = some true ↔ some true ∈ parts := by
  rw [disjunction]
  split
  · next htrue => simp [htrue]
  · next htrue => split <;> simp [htrue]

theorem conjunction_eq_true_iff {parts : List Truth} : conjunction parts = some true ↔ ∀ part ∈ parts, part = some true := by
  rw [conjunction]
  constructor
  · split
    · simp
    · next hfalse =>
      split
      · simp
      · next hnone =>
        intro _ part hpart
        rcases part with _ | _ | _
        · exact absurd hpart hnone
        · exact absurd hpart hfalse
        · rfl
  · intro hall
    rw [if_neg fun hfalse => absurd (hall _ hfalse) (by decide), if_neg fun hnone => absurd (hall _ hnone) (by decide)]

theorem not_disjunction (parts : List Truth) : (disjunction parts).not = conjunction (parts.map Truth.not) := by
  have hmem : ∀ t, Truth.not t ∈ parts.map Truth.not ↔ t ∈ parts := fun _ =>
    List.mem_map_of_injective (Option.map_injective fun _ _ => Bool.not_inj)
  have htrue : some false ∈ parts.map Truth.not ↔ some true ∈ parts := hmem (some true)
  have hnone : none ∈ parts.map Truth.not ↔ none ∈ parts := hmem none
  rw [disjunction, conjunction, if_congr htrue rfl (if_congr hnone rfl rfl)]
  split
  · rfl
  · split <;> rfl

end Tables.Truth

/-! ### Comparisons with one element -/

theorem comparedOrder_null_left {subject : Affinity × Cell} (h : subject.2 = .null) (item : Affinity × Cell) :
    comparedOrder subject item = none := by
  obtain ⟨a, cell⟩ := subject
  obtain ⟨b, other⟩ := item
  cases h
  cases a <;> cases b <;> rfl

theorem comparedOrder_null_right (subject : Affinity × Cell) : comparedOrder subject (.none, .null) = none := by
  obtain ⟨a, cell⟩ := subject
  cases a <;> cases cell <;> rfl

namespace Comparison

variable {subject : Affinity × Cell}

theorem not_equal_test (subject item : Affinity × Cell) : (equal.test subject item).not = notEqual.test subject item := by
  rw [test, test, Truth.not, Option.map_map]
  rfl

theorem truth_ofLiteral (comparison : Comparison) {item : Literal} (h : item ≠ .null) :
    comparison.truth subject (.ofLiteral item) = comparison.test subject (.none, (Value.ofLiteral item).cell) := by
  cases item with
  | null => exact absurd rfl h
  | _ => rfl

theorem present_of_equal_test {item : Affinity × Cell} (h : equal.test subject item = some true) : subject.2 ≠ .null := by
  intro hnull
  rw [test, comparedOrder_null_left hnull] at h
  cases h

theorem present_of_equal_truth {item : Literal} (hitem : item ≠ .null)
    (h : equal.truth subject (.ofLiteral item) = some true) : subject.2 ≠ .null :=
  present_of_equal_test (truth_ofLiteral equal hitem ▸ h)

/-- The store finds an element equal if the comparison with it is true and the cell is there. -/
theorem equal_test_iff (item : Literal) : equal.test subject (.none, (Value.ofLiteral item).cell) = some true ↔
    equal.truth subject (.ofLiteral item) = some true ∧ subject.2 ≠ .null := by
  by_cases hitem : item = .null
  · subst hitem
    change (comparedOrder subject (.none, .null)).map (· == .eq) = some true ↔ some (subject.2 == .null) = some true ∧ _
    simp [comparedOrder_null_right]
  · rw [truth_ofLiteral equal hitem]
    exact ⟨fun htest => ⟨htest, present_of_equal_test htest⟩, And.left⟩

/-- The store finds an element different if the comparison with it is true and it is no null. -/
theorem notEqual_test_iff (item : Literal) : notEqual.test subject (.none, (Value.ofLiteral item).cell) = some true ↔
    notEqual.truth subject (.ofLiteral item) = some true ∧ item ≠ .null := by
  by_cases hitem : item = .null
  · subst hitem
    change (comparedOrder subject (.none, .null)).map (· != .eq) = some true ↔ _
    simp [comparedOrder_null_right]
  · rw [truth_ofLiteral notEqual hitem, and_iff_left hitem]

theorem inList_truth_iff (items : List Literal) :
    inList.truth subject (.list (items.map .ofLiteral)) = some true ↔
      (∃ item ∈ items, equal.truth subject (.ofLiteral item) = some true) ∧ subject.2 ≠ .null := by
  rw [truth, if_neg (by decide), Truth.disjunction_eq_true_iff]
  simp only [List.map_map, List.mem_map, Function.comp, equal_test_iff]
  constructor
  · rintro ⟨item, hitem, hequal, hpresent⟩
    exact ⟨⟨item, hitem, hequal⟩, hpresent⟩
  · rintro ⟨⟨item, hitem, hequal⟩, hpresent⟩
    exact ⟨item, hitem, hequal, hpresent⟩

theorem notInList_truth_iff (items : List Literal) :
    notInList.truth subject (.list (items.map .ofLiteral)) = some true ↔
      (∀ item ∈ items, notEqual.truth subject (.ofLiteral item) = some true) ∧ .null ∉ items := by
  rw [truth, if_pos rfl, Truth.not_disjunction, Truth.conjunction_eq_true_iff]
  simp only [List.map_map, List.forall_mem_map, Function.comp, not_equal_test, notEqual_test_iff]
  constructor
  · intro hall
    exact ⟨fun item hitem => (hall item hitem).1, fun hnull => (hall .null hnull).2 rfl⟩
  · rintro ⟨hall, hnull⟩ item hitem
    exact ⟨hall item hitem, fun heq => hnull (heq ▸ hitem)⟩

end Comparison

/-! ### Filters -/

namespace Condition

variable {registry : Registry} {plan plan' : Plan} {field : FieldPath} {column : Sql.Expr} {items : List Literal}

/-- The field is one of the elements. -/
def isOneOf (field : FieldPath) (items : List Literal) : Condition :=
  .compare field .inList (.list items)

/-- The field is none of the elements. -/
def isNoneOf (field : FieldPath) (items : List Literal) : Condition :=
  .compare field .notInList (.list items)

/-- The field equals the first element or the second one, and so on. -/
def equalsAny (field : FieldPath) (items : List Literal) : Condition :=
  .any (items.map fun item => .compare field .equal (.literal item))

/-- The field differs from the first element and the second one, and so on. -/
def differsFromAll (field : FieldPath) (items : List Literal) : Condition :=
  .all (items.map fun item => .compare field .notEqual (.literal item))

/-- Whether a row passes the filter whose text is compiled from the condition, if there is one. -/
def passes? (registry : Registry) (bindings : Bindings) (plan : Plan) (condition : Condition) (scope : Scope) :
    Option Bool :=
  match condition.expr registry bindings plan with
  | .ok (e, _) => (Sql.Expr.parse? e.render).map fun read => passes scope (some read)
  | .error _ => none

theorem passes?_eq {bindings : Bindings} {condition : Condition} (hplan : Plan.Sound registry plan)
    (hadmits : plan.Admits registry condition.fields) (htests : ∀ test ∈ condition.tests, test.Accepted bindings)
    (scope : Scope) :
    condition.passes? registry bindings plan scope = some (condition.truth bindings plan.root scope == some true) := by
  obtain ⟨e, he⟩ := (expr_isOk_iff condition hplan).2 ⟨hadmits, htests, rfl⟩
  obtain ⟨-, hdecides⟩ := expr_decides condition hplan he
  rw [passes?, he]
  dsimp only
  rw [Sql.Expr.parse?_render (.ofConjoined (.ofNegated hdecides.phrase)), Option.map_some, passes, hdecides.truth_eq]

/-- A condition on nothing but one field has a filter if the field has a column and the values have literals. -/
theorem passes?_of_column {bindings : Bindings} {condition : Condition} (hplan : Plan.Sound registry plan)
    (hcolumn : plan.column? registry field 0 = .ok (column, plan'))
    (htests : ∀ test ∈ condition.tests, test.field = field ∧ test.Accepted bindings) (scope : Scope) :
    condition.passes? registry bindings plan scope = some (condition.truth bindings plan.root scope == some true) := by
  obtain ⟨leaf, hleaf⟩ : ∃ leaf, field.leaf? = some leaf := by
    obtain ⟨-, leaf, hleaf, -⟩ := Plan.column?_spec hplan hcolumn
    exact ⟨leaf, hleaf⟩
  obtain ⟨hadmits, -, -⟩ := (Plan.column?_eq_ok_iff hplan).1 hcolumn
  refine passes?_eq hplan (hadmits.of_subset ?_) (fun test htest => (htests test htest).2) scope
  intro path hpath
  rw [fields_eq] at hpath
  obtain ⟨test, htest, rfl⟩ := List.mem_map.1 hpath
  exact List.mem_singleton.2 (htests test htest).1

/-! ### Lists and their elements -/

section Elements

variable {bindings : Bindings} {leaf : String}

theorem tests_each (field : FieldPath) (comparison : Comparison) (items : List Literal) :
    testsOfAll (items.map fun item => .compare field comparison (.literal item)) =
      items.map fun item => ⟨field, comparison, .literal item⟩ := by
  induction items with
  | nil => rfl
  | cons item items ih => rw [List.map_cons, testsOfAll, ih, List.map_cons, tests, List.singleton_append]

theorem truths_each (hleaf : field.leaf? = some leaf) (comparison : Comparison) (items : List Literal)
    (bindings : Bindings) (root : String) (scope : Scope) :
    truths bindings root scope (items.map fun item => .compare field comparison (.literal item)) =
      items.map fun item => comparison.truth (scope.cell (some (Plan.qualifier root field.relations)) leaf)
        (.ofLiteral item) := by
  induction items with
  | nil => rfl
  | cons item items ih => rw [List.map_cons, truths, ih, List.map_cons, truth, hleaf, Operand.resolve]

theorem equalsAny_truth_iff (hleaf : field.leaf? = some leaf) (root : String) (scope : Scope) :
    (equalsAny field items).truth bindings root scope = some true ↔ ∃ item ∈ items,
      Comparison.equal.truth (scope.cell (some (Plan.qualifier root field.relations)) leaf) (.ofLiteral item) =
        some true := by
  rw [equalsAny, truth, truths_each hleaf, Truth.disjunction_eq_true_iff, List.mem_map]

/-- Of the rows with an element equal to the field, the list finds those in which the field is there. -/
theorem isOneOf_truth_iff (hleaf : field.leaf? = some leaf) (root : String) (scope : Scope) :
    (isOneOf field items).truth bindings root scope = some true ↔
      (equalsAny field items).truth bindings root scope = some true ∧
        (scope.cell (some (Plan.qualifier root field.relations)) leaf).2 ≠ .null := by
  rw [equalsAny_truth_iff hleaf, ← Comparison.inList_truth_iff, isOneOf, truth, hleaf, Operand.resolve]

/-- Of the rows in which the field differs from all elements, the list finds all or, with a null in it, none. -/
theorem isNoneOf_truth_iff (hleaf : field.leaf? = some leaf) (root : String) (scope : Scope) :
    (isNoneOf field items).truth bindings root scope = some true ↔
      (differsFromAll field items).truth bindings root scope = some true ∧ .null ∉ items := by
  rw [differsFromAll, truth, truths_each hleaf, Truth.conjunction_eq_true_iff, List.forall_mem_map,
    ← Comparison.notInList_truth_iff, isNoneOf, truth, hleaf, Operand.resolve]

theorem present_of_equalsAny (hleaf : field.leaf? = some leaf) {root : String} {scope : Scope} (hnull : .null ∉ items)
    (h : (equalsAny field items).truth bindings root scope = some true) :
    (scope.cell (some (Plan.qualifier root field.relations)) leaf).2 ≠ .null := by
  obtain ⟨item, hitem, hequal⟩ := (equalsAny_truth_iff hleaf root scope).1 h
  exact Comparison.present_of_equal_truth (fun heq => hnull (heq ▸ hitem)) hequal

/-- A literal that can be written can be compared with for equality, and lists of them for membership. -/
theorem accepted_each {comparison : Comparison} (hcomparison : comparison = .equal ∨ comparison = .notEqual)
    (hwritable : ∀ item ∈ items, (Value.ofLiteral item).Writable) :
    ∀ test ∈ testsOfAll (items.map fun item => .compare field comparison (.literal item)),
      test.field = field ∧ test.Accepted bindings := by
  rw [tests_each, List.forall_mem_map]
  refine fun item hitem => ⟨rfl, Test.accepted_iff.2 ⟨_, rfl, ?_⟩⟩
  rcases hcomparison with rfl | rfl
  · exact ⟨hwritable item hitem, fun _ => .inl rfl⟩
  · exact ⟨hwritable item hitem, fun _ => .inr rfl⟩

theorem accepted_list {comparison : Comparison} (hcomparison : comparison = .inList ∨ comparison = .notInList)
    (hwritable : ∀ item ∈ items, (Value.ofLiteral item).Writable) :
    ∀ test ∈ (compare field comparison (.list items)).tests, test.field = field ∧ test.Accepted bindings := by
  rw [tests, List.forall_mem_singleton]
  refine ⟨rfl, Test.accepted_iff.2 ⟨_, rfl, ?_⟩⟩
  rw [Comparison.Takes, if_pos hcomparison]
  exact ⟨_, rfl, List.forall_mem_map.2 hwritable⟩

end Elements

/-- On every row, a list without a null is compared with as a whole as it is element by element. With any list, a comparison does not find the rows in which the field is absent, and a negated one finds no row if there is a null in the list; in all else both ways agree. -/
theorem lists_as_equalities (hplan : Plan.Reachable registry plan)
    (hcolumn : plan.column? registry field 0 = .ok (column, plan'))
    (hwritable : ∀ item ∈ items, (Value.ofLiteral item).Writable) (bindings : Bindings) (scope : Scope) :
    ∃ oneOf equalsOne noneOf differs : Bool,
      (isOneOf field items).passes? registry bindings plan scope = some oneOf ∧
      (equalsAny field items).passes? registry bindings plan scope = some equalsOne ∧
      (isNoneOf field items).passes? registry bindings plan scope = some noneOf ∧
      (differsFromAll field items).passes? registry bindings plan scope = some differs ∧
      (oneOf = true ↔ equalsOne = true ∧ (eval scope column).2 ≠ .null) ∧
      (noneOf = true ↔ differs = true ∧ .null ∉ items) ∧
      (.null ∉ items → (oneOf = true ↔ equalsOne = true) ∧ (noneOf = true ↔ differs = true)) := by
  have hpasses : ∀ condition : Condition, (∀ test ∈ condition.tests, test.field = field ∧ test.Accepted bindings) →
      condition.passes? registry bindings plan scope = some (condition.truth bindings plan.root scope == some true) :=
    fun _ htests => passes?_of_column hplan.sound hcolumn htests scope
  obtain ⟨hextends, leaf, hleaf, -, -, rfl⟩ := Plan.column?_spec hplan.sound hcolumn
  rw [hextends.root_eq, eval]
  refine ⟨_, _, _, _, hpasses _ (accepted_list (.inl rfl) hwritable), hpasses _ (accepted_each (.inl rfl) hwritable),
    hpasses _ (accepted_list (.inr rfl) hwritable), hpasses _ (accepted_each (.inr rfl) hwritable), ?_⟩
  simp only [beq_iff_eq]
  have hone : (isOneOf field items).truth bindings plan.root scope = some true ↔ _ :=
    isOneOf_truth_iff hleaf plan.root scope
  have hnone : (isNoneOf field items).truth bindings plan.root scope = some true ↔ _ :=
    isNoneOf_truth_iff hleaf plan.root scope
  refine ⟨hone, hnone, fun hnull => ⟨?_, ?_⟩⟩
  · rw [hone, and_iff_left_of_imp (present_of_equalsAny hleaf hnull)]
  · rw [hnone, and_iff_left hnull]

def accountClasses : Registry := ⟨[.bare "Account"]⟩

def accountName : FieldPath := ⟨["Name"]⟩

/-- An account with a cell for its name. -/
def namedAccount (name : Cell) : Scope :=
  [⟨"Account", [⟨"name", .text, false⟩], [name]⟩]

/-- Names with a quote and a control character, and a number that is compared as its text. -/
def soughtNames : List Literal := [.string "it's", .integer 7, .string "a\nb"]

theorem soughtNames_as_equalities :
    (∀ item ∈ soughtNames, (Value.ofLiteral item).Writable) ∧
    ∃ oneOf equalsOne noneOf differs : Bool,
      (isOneOf accountName soughtNames).passes? accountClasses [] (.start "Account") (namedAccount (.text "7")) =
        some oneOf ∧
      (equalsAny accountName soughtNames).passes? accountClasses [] (.start "Account") (namedAccount (.text "7")) =
        some equalsOne ∧
      (isNoneOf accountName soughtNames).passes? accountClasses [] (.start "Account") (namedAccount (.text "7")) =
        some noneOf ∧
      (differsFromAll accountName soughtNames).passes? accountClasses [] (.start "Account") (namedAccount (.text "7")) =
        some differs ∧
      (oneOf = true ↔ equalsOne = true) ∧ (noneOf = true ↔ differs = true) := by
  have hwritable : ∀ item ∈ soughtNames, (Value.ofLiteral item).Writable := by
    simp [soughtNames, Value.ofLiteral, Value.Writable]
  have hcolumn : (Plan.start "Account").column? accountClasses accountName 0 = .ok _ := rfl
  obtain ⟨oneOf, equalsOne, noneOf, differs, hone, hequals, hnone, hdiffers, -, -, hagree⟩ :=
    lists_as_equalities (.start (by decide)) hcolumn hwritable [] (namedAccount (.text "7"))
  exact ⟨hwritable, oneOf, equalsOne, noneOf, differs, hone, hequals, hnone, hdiffers, hagree (by decide)⟩

/-- With a null in it, a list misses an account without a name, and hides one with another name if it is negated. -/
theorem account_missed_by_null :
    ((isOneOf accountName [.string "hoge", .null]).passes? accountClasses [] (.start "Account") (namedAccount .null) =
        some false ∧
      (equalsAny accountName [.string "hoge", .null]).passes? accountClasses [] (.start "Account") (namedAccount .null) =
        some true) ∧
    ((isNoneOf accountName [.string "hoge", .null]).passes? accountClasses [] (.start "Account")
        (namedAccount (.text "fuga")) = some false ∧
      (differsFromAll accountName [.string "hoge", .null]).passes? accountClasses [] (.start "Account")
        (namedAccount (.text "fuga")) = some true) := by
  decide +kernel

end Condition

end ObjectStore
