import Mathlib.Data.Finset.Dedup
import Mathlib.Data.Finset.Insert
import ObjectStore.Proofs.Fields
import ObjectStore.Proofs.Query.Acceptance
import ObjectStore.Proofs.Query.FieldPaths

/-!
# Joins under the texts of their relations

While paths are looked up, the joins can be kept in a table under the dotted text of their relations, beside the set of all names that a column can be read from. `JoinTable` is this table, with lookups that change it in place and may stop half way. It is a plan with other keys: the relations that come so far are identifiers, which have no dots, so they can be told from their text. What is known of plans thus holds for the table after any lookups, failed ones included.

A path that has been found is found again, at the same name and without a change, whatever is looked up in between. This is why a condition can be gone through twice, for its joins and for its text.
-/

namespace ObjectStore

/-- A join as it is kept under the text of its relations. -/
structure StoredJoin where
  table : String
  name : String
  parent : String
  relation : String
  deriving DecidableEq

/-- The joins in the order in which they came, and the names that are taken. -/
structure JoinTable where
  root : String
  joins : List (String × StoredJoin)
  taken : Finset String

/-- The text under which the join for a sequence of relations is kept. -/
def dotted (relations : List String) : String :=
  ".".intercalate relations

namespace JoinTable

def start (root : String) : JoinTable := ⟨root, [], {root}⟩

/-- The name of the table that `relations` lead to from the table named `parent`, which `followed` lead to from the root. -/
def follow (registry : Registry) (path : FieldPath) (followed : List String) (parent : String) :
    List String → JoinTable → Except CompileError String × JoinTable
  | [], table => (.ok parent, table)
  | relation :: rest, table =>
    match checkIdentifier relation with
    | .error e => (.error e, table)
    | .ok _ =>
      if followed.isEmpty && relation == table.root then (.error (.selfRelation relation), table)
      else
        let relations := followed ++ [relation]
        match table.joins.lookup (dotted relations) with
        | some join => follow registry path relations join.name rest table
        | none =>
          match registry.resolveRelation relation path.display with
          | .error e => (.error e, table)
          | .ok target =>
            let name := "_".intercalate relations
            if name ∈ table.taken then (.error (.aliasCollision name path.display), table)
            else
              let join : StoredJoin := ⟨target.name, name, parent, relation⟩
              let table : JoinTable := { table with
                joins := Fields.set (dotted relations) join table.joins
                taken := insert name table.taken }
              follow registry path relations name rest table

/-- The text of the column that a path reads, and the table with the joins that it needs. -/
def column (registry : Registry) (path : FieldPath) (index : Nat) (table : JoinTable) :
    Except CompileError String × JoinTable :=
  match path.leaf? with
  | none => (.error (.emptyFieldPath index), table)
  | some leaf =>
    match checkIdentifier leaf with
    | .error e => (.error e, table)
    | .ok _ =>
      if path.isRelationship then
        match follow registry path [] table.root path.relations table with
        | (.error e, table) => (.error e, table)
        | (.ok name, table) => (.ok (name ++ "." ++ leaf), table)
      else (.ok (table.root ++ "." ++ leaf), table)

/-- The table after some lookups, whether they find something or not. -/
def after (registry : Registry) (table : JoinTable) (calls : List (FieldPath × Nat)) : JoinTable :=
  calls.foldl (fun table call => (table.column registry call.1 call.2).2) table

end JoinTable

/-- The plan after some lookups, whether they find something or not. -/
def Plan.after (registry : Registry) (plan : Plan) (calls : List (FieldPath × Nat)) : Plan :=
  calls.foldl (fun plan call => (plan.column registry call.1 call.2).2) plan

/-! ### Dotted texts -/

/-- Relations that have been checked. -/
def Checked (relations : List String) : Prop :=
  relations ≠ [] ∧ ∀ relation ∈ relations, Text.isIdentifier relation = true

theorem Checked.readable {relations : List String} (h : Checked relations) : (⟨relations⟩ : FieldPath).Readable where
  dotless relation hrelation hdot := by
    have hpart := Text.isIdentifierPart_of_mem (h.2 relation hrelation) hdot
    exact absurd hpart (by decide)
  ne_blank hblank := by
    obtain rfl : relations = [""] := hblank
    exact absurd (h.2 "" (List.mem_singleton_self _)) (by decide)

theorem dotted_injective {relations others : List String} (h : Checked relations) (hothers : Checked others)
    (hdotted : dotted relations = dotted others) : relations = others :=
  congrArg FieldPath.segments (FieldPath.eq_of_display_eq h.readable hothers.readable hdotted)

/-! ### Plans as tables -/

namespace Plan

variable {registry : Registry} {plan : Plan}

def storedOf (join : PlannedJoin) : StoredJoin :=
  ⟨join.table, join.name, join.parent, join.relation⟩

/-- The plan with its joins under the texts of their relations. -/
def keyed (plan : Plan) : JoinTable where
  root := plan.root
  joins := plan.joins.map fun join => (dotted join.relations, storedOf join)
  taken := plan.names.toFinset

theorem keyed_start (root : String) : (start root).keyed = .start root := rfl

/-- All joins of the plan are for relations that have been checked. -/
def AllChecked (plan : Plan) : Prop :=
  ∀ join ∈ plan.joins, Checked join.relations

theorem lookup_keyed (h : plan.AllChecked) {relations : List String} (hrelations : Checked relations) :
    plan.keyed.joins.lookup (dotted relations) = (plan.find? relations).map storedOf := by
  obtain ⟨root, joins⟩ := plan
  rw [keyed, find?]
  induction joins with
  | nil => rfl
  | cons join joins ih =>
    have hjoin := h join List.mem_cons_self
    have hjoins : AllChecked ⟨root, joins⟩ := fun other hother => h other (List.mem_cons_of_mem _ hother)
    rw [List.map_cons, List.lookup_cons, List.find?_cons]
    by_cases hsame : join.relations = relations
    · rw [hsame, beq_self_eq_true, beq_self_eq_true]
      rfl
    · have hapart : dotted relations ≠ dotted join.relations :=
        fun hdotted => hsame (dotted_injective hjoin hrelations hdotted.symm)
      rw [beq_false_of_ne hapart, beq_false_of_ne hsame]
      exact ih hjoins

theorem names_keyed (plan : Plan) {name : String} : name ∈ plan.keyed.taken ↔ plan.names.contains name = true := by
  rw [keyed, List.mem_toFinset, List.contains_iff_mem]

/-- A join for other relations than those so far comes to the end of the table, and its name is taken then. -/
theorem keyed_concat (h : plan.AllChecked) {join : PlannedJoin} (hrelations : Checked join.relations)
    (hfind : plan.find? join.relations = none) :
    ({ plan with joins := plan.joins ++ [join] } : Plan).keyed = { plan.keyed with
      joins := Fields.set (dotted join.relations) (storedOf join) plan.keyed.joins
      taken := insert join.name plan.keyed.taken } := by
  have hnew : dotted join.relations ∉ plan.keyed.joins.map Prod.fst := by
    rw [← Fields.names, ← Fields.lookup_eq_none_iff, lookup_keyed h hrelations, hfind]
    rfl
  rw [Fields.set_of_not_mem hnew]
  simp only [keyed, names, List.map_append, List.map_singleton, JoinTable.mk.injEq, true_and]
  ext name
  rw [Finset.mem_insert, List.mem_toFinset, List.mem_toFinset, ← List.cons_append, List.mem_append, List.mem_singleton,
    or_comm]

theorem AllChecked.concat (h : plan.AllChecked) {join : PlannedJoin} (hrelations : Checked join.relations) :
    ({ plan with joins := plan.joins ++ [join] } : Plan).AllChecked := by
  intro other hother
  rcases List.mem_append.1 hother with hother | hother
  · exact h other hother
  · rwa [List.mem_singleton.1 hother]

theorem follow_keyed (registry : Registry) (path : FieldPath) {followed : List String} (parent : String) (rest : List String)
    (h : plan.AllChecked) (hfollowed : ∀ relation ∈ followed, Text.isIdentifier relation = true) :
    plan.keyed.follow registry path followed parent rest = Prod.map id keyed (plan.follow registry path followed parent rest) := by
  -- on the relations that are left; those followed so far have been checked, and so have those of all joins
  induction rest generalizing followed parent plan with
  | nil => rfl
  | cons relation rest ih =>
    rw [JoinTable.follow, follow]
    cases hcheck : checkIdentifier relation with
    | error e => rfl
    | ok checked =>
      have hrelations : ∀ other ∈ followed ++ [relation], Text.isIdentifier other = true := by
        rw [List.forall_mem_append, List.forall_mem_singleton]
        exact ⟨hfollowed, (checkIdentifier_eq_ok hcheck).1⟩
      have hchecked : Checked (followed ++ [relation]) := ⟨List.append_ne_nil_of_right_ne_nil _ (List.cons_ne_nil _ _), hrelations⟩
      simp only [lookup_keyed h hchecked]
      change (if (followed.isEmpty && relation == plan.root) = true then _ else _) = _
      split
      · rfl
      · cases hfind : plan.find? (followed ++ [relation]) with
        | some join => exact ih join.name h hrelations
        | none =>
          simp only [Option.map_none]
          cases registry.resolveRelation relation path.display with
          | error e => rfl
          | ok target =>
            simp only [names_keyed]
            split
            · rfl
            · rw [← ih _ (h.concat hchecked) hrelations, keyed_concat h hchecked hfind]
              rfl

theorem column_keyed (registry : Registry) (path : FieldPath) (index : Nat) (h : plan.AllChecked) :
    plan.keyed.column registry path index =
      Prod.map (Except.map Sql.Expr.render) keyed (plan.column registry path index) := by
  have hfollow := follow_keyed registry path plan.root path.relations h fun _ hmem => absurd hmem List.not_mem_nil
  rw [JoinTable.column, column]
  cases path.leaf? with
  | none => rfl
  | some leaf =>
    simp only
    cases checkIdentifier leaf with
    | error e => rfl
    | ok checked =>
      have hroot : plan.keyed.root = plan.root := rfl
      by_cases hleaves : path.isRelationship = true
      · simp only [if_pos hleaves, hroot, hfollow]
        obtain ⟨result, grown⟩ := plan.follow registry path [] plan.root path.relations
        cases result <;> rfl
      · have hrelations : path.relations = [] := by rwa [path.isRelationship_iff, not_not] at hleaves
        rw [if_neg hleaves, hrelations]
        rfl

/-! ### Looking up again -/

/-- A relation that was followed finds its join in every plan with the same joins and more. -/
theorem Meets.again {followed : List String} {parent relation : String} {join : PlannedJoin} {next more : Plan}
    (h : Meets registry plan followed parent relation join next) (hroot : more.root = plan.root)
    (hmore : next.joins <+: more.joins) : Meets registry more followed parent relation join more := by
  cases h with
  | found hrelation hleaves hfind => exact .found hrelation (hroot ▸ hleaves) (hmore.find?_eq_some hfind)
  | joined hrelation hleaves hnew _ _ =>
    refine .found hrelation (hroot ▸ hleaves) (hmore.find?_eq_some ?_)
    rw [find?] at hnew
    rw [List.find?_append, hnew, Option.none_or]
    simp [joinFrom]

theorem Meets.root_eq {followed : List String} {parent relation : String} {join : PlannedJoin} {next : Plan}
    (h : Meets registry plan followed parent relation join next) : next.root = plan.root := by
  cases h <;> rfl

theorem Meets.joins_prefix {followed : List String} {parent relation : String} {join : PlannedJoin} {next : Plan}
    (h : Meets registry plan followed parent relation join next) : plan.joins <+: next.joins := by
  cases h with
  | found => exact List.prefix_rfl
  | joined => exact List.prefix_append _ _

theorem joins_prefix_follow (registry : Registry) (path : FieldPath) (followed : List String) (parent : String)
    (rest : List String) (plan : Plan) : plan.joins <+: (plan.follow registry path followed parent rest).2.joins := by
  induction rest generalizing followed parent plan with
  | nil => exact List.prefix_rfl
  | cons relation rest ih =>
    rcases follow_cons registry path followed parent relation rest plan with ⟨-, e, hstop⟩ | ⟨join, next, hmeets, hstep⟩
    · rw [hstop]
    · rw [hstep]
      exact hmeets.joins_prefix.trans (ih _ _ next)

/-- A way that was found is found again in every plan with the same joins and more. -/
theorem follow_again {path : FieldPath} {followed rest : List String} {parent name : String} {last more : Plan}
    (h : plan.follow registry path followed parent rest = (.ok name, last)) (hroot : more.root = plan.root)
    (hmore : last.joins <+: more.joins) : more.follow registry path followed parent rest = (.ok name, more) := by
  -- the plan grows along the way, and all that it has in the end is in `more`
  induction rest generalizing followed parent plan with
  | nil =>
    cases h
    rfl
  | cons relation rest ih =>
    rcases follow_cons registry path followed parent relation rest plan with ⟨-, e, hstop⟩ | ⟨join, next, hmeets, hstep⟩
    · rw [hstop] at h
      cases h
    · rw [hstep] at h
      have hnext := joins_prefix_follow registry path (followed ++ [relation]) join.name rest next
      rw [h] at hnext
      rw [follow_of_meets (hmeets.again hroot (hnext.trans hmore))]
      exact ih h (hroot.trans hmeets.root_eq.symm)

/-- A column that was found is found again, at whatever position it is asked for. -/
theorem column_again {path : FieldPath} {index : Nat} {e : Sql.Expr} {last more : Plan}
    (h : plan.column registry path index = (.ok e, last)) (hroot : more.root = plan.root) (hmore : last.joins <+: more.joins)
    (again : Nat) : more.column registry path again = (.ok e, more) := by
  rw [column] at h ⊢
  cases hleaf : path.leaf? with
  | none => simp [hleaf] at h
  | some leaf =>
    cases hcheck : checkIdentifier leaf with
    | error e => simp [hleaf, hcheck] at h
    | ok checked =>
      simp only [hleaf, hcheck, hroot] at h ⊢
      cases hfollow : plan.follow registry path [] plan.root path.relations with
      | mk result grown =>
        rw [hfollow] at h
        cases result with
        | error e => cases h
        | ok name =>
          cases h
          rw [follow_again hfollow hroot hmore]

/-! ### Lookups one after the other -/

theorem Joined.checked {root : String} {joins : List PlannedJoin} (h : Joined registry root joins) {join : PlannedJoin}
    (hjoin : join ∈ joins) : Checked join.relations := by
  induction h generalizing join with
  | nil => exact absurd hjoin List.not_mem_nil
  | @snoc joins followed relation _ hknown hrelation _ _ ih =>
    rcases List.mem_append.1 hjoin with hjoin | hjoin
    · exact ih hjoin
    · rw [List.mem_singleton.1 hjoin]
      refine ⟨List.append_ne_nil_of_right_ne_nil _ (List.cons_ne_nil _ _), ?_⟩
      change ∀ other ∈ followed ++ [relation], _
      rw [List.forall_mem_append, List.forall_mem_singleton]
      refine ⟨?_, hrelation⟩
      rcases hknown with rfl | ⟨parent, hparent, rfl⟩
      · exact fun _ hmem => absurd hmem List.not_mem_nil
      · exact (ih hparent).2

/-- What lookups leave of a plan: its root and its joins, with more joins perhaps that come about in the same way. -/
structure Continues (registry : Registry) (plan later : Plan) : Prop where
  root_eq : later.root = plan.root
  joins : Joined registry later.root later.joins
  grown : plan.joins <+: later.joins

theorem column_continues (h : Joined registry plan.root plan.joins) (path : FieldPath) (index : Nat) :
    plan.Continues registry (plan.column registry path index).2 := by
  obtain ⟨hroot, hjoins, hgrown⟩ := column_joined h path index
  exact ⟨hroot, hroot.symm ▸ hjoins, hgrown⟩

theorem after_continues (h : Joined registry plan.root plan.joins) (calls : List (FieldPath × Nat)) :
    plan.Continues registry (plan.after registry calls) := by
  induction calls generalizing plan with
  | nil => exact ⟨rfl, h, List.prefix_rfl⟩
  | cons call calls ih =>
    have hfirst := column_continues h call.1 call.2
    have hrest := ih hfirst.joins
    exact ⟨hrest.root_eq.trans hfirst.root_eq, hrest.joins, hfirst.grown.trans hrest.grown⟩

theorem after_keyed (h : Joined registry plan.root plan.joins) (calls : List (FieldPath × Nat)) :
    plan.keyed.after registry calls = (plan.after registry calls).keyed := by
  induction calls generalizing plan with
  | nil => rfl
  | cons call calls ih =>
    have hcolumn := column_keyed registry call.1 call.2 fun _ => h.checked
    have hnext := (column_continues h call.1 call.2).joins
    rw [JoinTable.after, after, List.foldl_cons, List.foldl_cons, hcolumn]
    exact ih hnext

/-! ### The second pass over a condition -/

/-- The plan has all joins for the path, and the path can be looked up. -/
def Settles (registry : Registry) (plan : Plan) (path : FieldPath) : Prop :=
  ∃ e, ∀ index, plan.column registry path index = (.ok e, plan)

theorem column?_eq_ok_iff_column {path : FieldPath} {index : Nat} {e : Sql.Expr} {last : Plan} :
    plan.column? registry path index = .ok (e, last) ↔ plan.column registry path index = (.ok e, last) := by
  rw [column?]
  obtain ⟨result, grown⟩ := plan.column registry path index
  cases result <;> simp

theorem addPaths_settles {paths : List FieldPath} {index : Nat} {last : Plan} (h : Joined registry plan.root plan.joins)
    (hadd : plan.addPaths registry index paths = .ok last) :
    plan.Continues registry last ∧ ∀ path ∈ paths, last.Settles registry path := by
  induction paths generalizing plan index with
  | nil =>
    cases hadd
    exact ⟨⟨rfl, h, List.prefix_rfl⟩, fun _ hmem => absurd hmem List.not_mem_nil⟩
  | cons path paths ih =>
    rw [addPaths, bind_eq_ok] at hadd
    obtain ⟨⟨e, next⟩, hcolumn, hadd⟩ := hadd
    have hfound := column?_eq_ok_iff_column.1 hcolumn
    have hfirst := column_continues h path index
    rw [hfound] at hfirst
    obtain ⟨hrest, hsettles⟩ := ih hfirst.joins hadd
    refine ⟨⟨hrest.root_eq.trans hfirst.root_eq, hrest.joins, hfirst.grown.trans hrest.grown⟩, ?_⟩
    rw [List.forall_mem_cons]
    exact ⟨⟨e, column_again hfound (hrest.root_eq.trans hfirst.root_eq) hrest.grown⟩, hsettles⟩

end Plan

/-- A comparison cannot be written because of its operand: it is not bound, or it is no value that the comparison can be with. -/
inductive Test.Refuses (bindings : Bindings) (test : Test) : CompileError → Prop where
  | unbound {e : CompileError} (h : test.operand.resolve bindings = .error e) : test.Refuses bindings e
  | untaken {e : CompileError} {value : Value} (column : Sql.Expr) (h : test.operand.resolve bindings = .ok value)
      (htaken : test.comparison.expr column value = .error e) : test.Refuses bindings e

/-- What writing comes to when the plan has all joins already: the plan stays, and only an operand can be refused. -/
inductive WrittenOver (bindings : Bindings) (tests : List Test) (plan : Plan) {α : Type} :
    Except CompileError (α × Plan) → Prop where
  | written (a : α) : WrittenOver bindings tests plan (.ok (a, plan))
  | refused {test : Test} {e : CompileError} (htest : test ∈ tests) (h : test.Refuses bindings e) :
      WrittenOver bindings tests plan (.error e)

namespace WrittenOver

variable {bindings : Bindings} {tests more : List Test} {plan : Plan} {α β : Type} {x : Except CompileError (α × Plan)}

theorem mono (h : WrittenOver bindings tests plan x) (hsubset : tests ⊆ more) : WrittenOver bindings more plan x := by
  cases h with
  | written a => exact .written a
  | refused htest h => exact .refused (hsubset htest) h

theorem bind {f : α × Plan → Except CompileError (β × Plan)} (h : WrittenOver bindings tests plan x)
    (hf : ∀ a, WrittenOver bindings tests plan (f (a, plan))) : WrittenOver bindings tests plan (x >>= f) := by
  cases h with
  | written a => exact hf a
  | refused htest h => exact .refused htest h

end WrittenOver

namespace Condition

variable {registry : Registry} {bindings : Bindings} {plan : Plan}

mutual

theorem expr_writtenOver (condition : Condition) (h : ∀ field ∈ condition.fields, plan.Settles registry field) :
    WrittenOver bindings condition.tests plan (condition.expr registry bindings plan) := by
  cases condition with
  | compare field comparison operand =>
    obtain ⟨column, hcolumn⟩ := h field List.mem_cons_self
    have hfound : plan.column? registry field 0 = .ok (column, plan) := Plan.column?_eq_ok_iff_column.2 (hcolumn 0)
    rw [Condition.expr, hfound]
    refine WrittenOver.bind (.written column) fun column => ?_
    simp only
    cases hresolve : operand.resolve bindings with
    | error e => exact .refused List.mem_cons_self (.unbound hresolve)
    | ok value =>
      change WrittenOver _ _ _ (comparison.expr column value >>= _)
      cases hexpr : comparison.expr column value with
      | error e => exact .refused List.mem_cons_self (.untaken column hresolve hexpr)
      | ok e => exact .written e
  | all parts =>
    cases parts with
    | nil => exact .written _
    | cons part parts =>
      rw [expr_all]
      exact (exprs_writtenOver (part :: parts) h).bind fun es => .written _
  | any parts =>
    cases parts with
    | nil => exact .written _
    | cons part parts =>
      rw [expr_any]
      exact (exprs_writtenOver (part :: parts) h).bind fun es => .written _
  | not inner =>
    rw [Condition.expr]
    exact (expr_writtenOver inner h).bind fun e => .written _

theorem exprs_writtenOver (parts : List Condition) (h : ∀ field ∈ fieldsOfAll parts, plan.Settles registry field) :
    WrittenOver bindings (testsOfAll parts) plan (exprs registry bindings parts plan) := by
  cases parts with
  | nil => exact .written _
  | cons part parts =>
    rw [fieldsOfAll, List.forall_mem_append] at h
    rw [exprs, testsOfAll]
    refine ((expr_writtenOver part h.1).mono (List.subset_append_left _ _)).bind fun first => ?_
    exact ((exprs_writtenOver parts h.2).mono (List.subset_append_right _ _)).bind fun rest => .written _

end

end Condition

/-! ### The table -/

namespace JoinTable

/-- A join stands under the text of its relations, which also give its name, and after the join that its last relation is followed from. -/
inductive Stands (root : String) (before : List (String × StoredJoin)) : String → StoredJoin → Prop where
  | first {relation : String} (h : Text.isIdentifier relation = true) :
      Stands root before relation ⟨relation, relation, root, relation⟩
  | further {followed : List String} {relation : String} {parent : StoredJoin} (hfollowed : Checked followed)
      (h : Text.isIdentifier relation = true) (hparent : (dotted followed, parent) ∈ before) :
      Stands root before (dotted (followed ++ [relation]))
        ⟨relation, "_".intercalate (followed ++ [relation]), parent.name, relation⟩

/-- A table as lookups leave it. -/
structure WellFormed (table : JoinTable) : Prop where
  taken_eq : table.taken = (table.root :: table.joins.map (·.2.name)).toFinset
  distinct : (table.root :: table.joins.map (·.2.name)).Nodup
  keys : (Fields.names table.joins).Nodup
  stands : ∀ before key join after, table.joins = before ++ (key, join) :: after → Stands table.root before key join

end JoinTable

namespace Plan

variable {registry : Registry} {plan : Plan}

theorem joinNames_keyed (plan : Plan) : plan.keyed.joins.map (·.2.name) = plan.joins.map (·.name) := by
  rw [keyed, List.map_map]
  rfl

theorem nodup_keys (h : Joined registry plan.root plan.joins) : (Fields.names plan.keyed.joins).Nodup := by
  have hkeys : Fields.names plan.keyed.joins = plan.joins.map fun join => dotted join.relations := by
    rw [Fields.names, keyed, List.map_map]
    rfl
  rw [hkeys, List.nodup_iff_pairwise_ne, List.pairwise_map]
  have hnames := (List.nodup_cons.1 h.nodup_names).2
  rw [List.nodup_iff_pairwise_ne, List.pairwise_map] at hnames
  refine hnames.imp_of_mem fun {join other} hjoin hother hapart hdotted => hapart ?_
  rw [h.name_eq hjoin, h.name_eq hother, dotted_injective (h.checked hjoin) (h.checked hother) hdotted]

theorem stands_keyed (h : Joined registry plan.root plan.joins) {before after : List (String × StoredJoin)} {key : String}
    {join : StoredJoin} (hsplit : plan.keyed.joins = before ++ (key, join) :: after) :
    JoinTable.Stands plan.root before key join := by
  obtain ⟨first, rest, hjoins, rfl, hrest⟩ := List.map_eq_append_iff.1 hsplit
  obtain ⟨planned, last, rfl, hplanned, -⟩ := List.map_eq_cons_iff.1 hrest
  obtain ⟨rfl, rfl⟩ := Prod.mk.inj hplanned
  obtain ⟨followed, relation, rfl, hknown, hrelation, -⟩ := h.split hjoins
  rcases hknown with rfl | ⟨parent, hparent, rfl⟩
  · change JoinTable.Stands _ _ (".".intercalate [relation]) ⟨relation, "_".intercalate [relation], plan.root, relation⟩
    rw [String.intercalate_singleton, String.intercalate_singleton]
    exact .first hrelation
  · have hmem : parent ∈ plan.joins := by
      rw [hjoins]
      exact List.mem_append_left _ hparent
    have hbefore : (dotted parent.relations, storedOf parent) ∈
        first.map fun join => (dotted join.relations, storedOf join) := List.mem_map_of_mem hparent
    have hjoin : storedOf (joinOf plan.root parent.relations relation) =
        ⟨relation, "_".intercalate (parent.relations ++ [relation]), (storedOf parent).name, relation⟩ := by
      rw [← qualifier_snoc plan.root]
      change StoredJoin.mk _ _ (qualifier plan.root parent.relations) _ = ⟨_, _, parent.name, _⟩
      rw [h.name_eq hmem]
      rfl
    rw [hjoin]
    exact .further (h.checked hmem) hrelation hbefore

/-- What the text of a column was is the text of the column, whatever is looked up in between. -/
theorem keyed_column_again (h : Joined registry plan.root plan.joins) {path : FieldPath} {index : Nat} {text : String}
    {table : JoinTable} (hfound : plan.keyed.column registry path index = (.ok text, table)) (more : List (FieldPath × Nat))
    (again : Nat) : (table.after registry more).column registry path again = (.ok text, table.after registry more) := by
  have hnext := column_continues h path index
  rw [column_keyed registry path index fun _ => h.checked] at hfound
  cases hplanned : plan.column registry path index with
  | mk result next =>
    rw [hplanned] at hfound hnext
    obtain ⟨hresult, rfl⟩ := Prod.mk.inj hfound
    obtain ⟨e, rfl, rfl⟩ := map_eq_ok.1 hresult
    have hmore := after_continues hnext.joins more
    rw [after_keyed hnext.joins, column_keyed registry path again fun _ => hmore.joins.checked,
      column_again hplanned (hmore.root_eq.trans hnext.root_eq) hmore.grown]
    rfl

theorem keyed_wellFormed (h : Joined registry plan.root plan.joins) : plan.keyed.WellFormed where
  taken_eq := by
    rw [joinNames_keyed]
    rfl
  distinct := by
    rw [joinNames_keyed]
    exact h.nodup_names
  keys := nodup_keys h
  stands _ _ _ _ hsplit := stands_keyed h hsplit

end Plan

namespace JoinTable

/-- Whatever is looked up, and whether it is found or not: the names that are taken are those of the root and the joins, all of them different, every join stands under its relations and after its parent, and joins stay as and where they are. What was found once is found again without a change, so that writing a condition whose paths have been added changes nothing, and fails on an operand if it fails. -/
theorem kept_by_columns (registry : Registry) (root : String) (calls : List (FieldPath × Nat)) :
    let table := (start root).after registry calls
    let plan := (Plan.start root).after registry calls
    table.root = root ∧ table.WellFormed ∧
    (∀ more, table.joins <+: (table.after registry more).joins) ∧
    (∀ path index text next, table.column registry path index = (.ok text, next) → ∀ more again,
      let later := next.after registry more
      later.column registry path again = (.ok text, later)) ∧
    table = plan.keyed ∧
    (∀ path index, table.column registry path index =
      Prod.map (Except.map Sql.Expr.render) Plan.keyed (plan.column registry path index)) ∧
    ∀ (condition : Condition) bindings grown, plan.addPaths registry 0 condition.fields = .ok grown →
      WrittenOver bindings condition.tests grown (condition.expr registry bindings grown) := by
  intro table plan
  have hstart : Plan.Joined registry (Plan.start root).root (Plan.start root).joins := .nil
  have hplan := Plan.after_continues hstart calls
  have htable : table = plan.keyed := by
    change (start root).after registry calls = ((Plan.start root).after registry calls).keyed
    rw [← Plan.after_keyed hstart, Plan.keyed_start]
  have hcolumn : ∀ path index, table.column registry path index =
      Prod.map (Except.map Sql.Expr.render) Plan.keyed (plan.column registry path index) := by
    intro path index
    rw [htable]
    exact Plan.column_keyed registry path index fun _ => hplan.joins.checked
  refine ⟨?_, ?_, ?_, ?_, htable, hcolumn, ?_⟩
  · rw [htable]
    exact hplan.root_eq
  · rw [htable]
    exact Plan.keyed_wellFormed hplan.joins
  · intro more
    rw [htable, Plan.after_keyed hplan.joins]
    exact (Plan.after_continues hplan.joins more).grown.map _
  · intro path index text next hfound
    rw [htable] at hfound
    exact Plan.keyed_column_again hplan.joins hfound
  · intro condition bindings grown hadd
    exact condition.expr_writtenOver (Plan.addPaths_settles hplan.joins hadd).2

end JoinTable

end ObjectStore
