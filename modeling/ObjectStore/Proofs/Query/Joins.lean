import ObjectStore.Proofs.Query.Compile
import ObjectStore.Proofs.Tables.Equality

/-!
# Joins follow relations

A selection with joins is evaluated from the left: every row on the left is kept, beside each row of the joined table that satisfies the condition or beside an absent row if none does. Names of tables are compared as they are written. If no table holds two rows with the same key, each row of the queried class gives exactly one row of the result, in which every column holds what is found by following the relations of its path.

The proof goes along the joins in their order. After some of them, the row for a record of the root holds, under the name of each join, the record that the relations of the join lead to. The next join only looks at the record that its parent's relations lead to, so it adds the one that is reached by one more relation.
-/

namespace ObjectStore

open Tables

/-! ### Evaluating selections -/

/-- A row of a table: the cells that the names of its columns refer to. -/
abbrev Tuple := String → Cell

/-- The row in place of one that is not there. -/
def Tuple.absent : Tuple := fun _ => .null

/-- Rows of several tables side by side, each under the name of its table. -/
abbrev JoinedRow := List (String × Tuple)

namespace JoinedRow

/-- The cell of a column, if exactly one of the tables has the name before it. -/
def cell? (row : JoinedRow) : Sql.Expr → Option Cell
  | .column (some qualifier) name =>
    match row.filter fun entry => entry.1 == qualifier with
    | [(_, tuple)] => some (tuple name)
    | _ => none
  | _ => none

/-- Whether an equality of two columns holds. -/
def holds? (row : JoinedRow) : Sql.Expr → Option Bool
  | .compare .equal left right => do some (sameCell (← row.cell? left) (← row.cell? right))
  | _ => none

end JoinedRow

/-- The row with each of the tuples for which the condition holds. -/
def matching? (join : Sql.Join) (row : JoinedRow) : List Tuple → Option (List JoinedRow)
  | [] => some []
  | tuple :: tuples => do
    let joined := row ++ [(join.name, tuple)]
    let holds ← joined.holds? join.on
    let others ← matching? join row tuples
    some (if holds then joined :: others else others)

/-- The row with its matches in the joined table, or with an absent one. -/
def joinRow? (tables : String → List Tuple) (join : Sql.Join) (row : JoinedRow) : Option (List JoinedRow) :=
  (matching? join row (tables join.table)).map fun
    | [] => [row ++ [(join.name, Tuple.absent)]]
    | rows => rows

def joinAll? (tables : String → List Tuple) : List Sql.Join → List JoinedRow → Option (List JoinedRow)
  | [], rows => some rows
  | join :: joins, rows => do
    let joined ← rows.mapM (joinRow? tables join)
    joinAll? tables joins joined.flatten

/-- The rows of a selection of columns, without a condition, an order or a bound. -/
def evalSelect? (tables : String → List Tuple) : Sql.Select → Option (List (List Cell))
  | ⟨items, some source, none, [], none⟩ => do
    let rows ← joinAll? tables source.joins ((tables source.table).map fun tuple => [(source.table, tuple)])
    rows.mapM fun row => items.mapM row.cell?
  | _ => none

/-! ### Following relations -/

/-- The row that a relation leads to: the one whose key is in the column for the relation. -/
def step? (tables : String → List Tuple) (relation : String) (tuple : Tuple) : Option Tuple :=
  (tables relation).find? fun other => sameCell (other idColumn) (tuple (relation ++ "Id"))

/-- The row that relations lead to, one after the other. -/
def navigate? (tables : String → List Tuple) : List String → Tuple → Option Tuple
  | [], tuple => some tuple
  | relation :: rest, tuple => (step? tables relation tuple).bind (navigate? tables rest)

/-- The cell that a path leads to, which is absent if a relation leads nowhere. -/
def cellAt (tables : String → List Tuple) (path : FieldPath) (root : Tuple) : Cell :=
  match navigate? tables path.relations root, path.leaf? with
  | some tuple, some leaf => tuple leaf
  | _, _ => .null

/-- What is joined for relations: the row that they lead to, or an absent one. -/
def reached (tables : String → List Tuple) (relations : List String) (root : Tuple) : Tuple :=
  (navigate? tables relations root).getD Tuple.absent

variable {tables : String → List Tuple}

theorem step?_absent (relation : String) : step? tables relation Tuple.absent = none := by
  rw [step?, List.find?_eq_none]
  intro other _
  rw [Tuple.absent, sameCell_null]
  exact Bool.false_ne_true

theorem reached_snoc (relations : List String) (relation : String) (root : Tuple) :
    reached tables (relations ++ [relation]) root =
      (step? tables relation (reached tables relations root)).getD Tuple.absent := by
  have hsnoc : navigate? tables (relations ++ [relation]) root =
      (navigate? tables relations root).bind (step? tables relation) := by
    induction relations generalizing root with
    | nil =>
      rw [List.nil_append, navigate?, navigate?, Option.bind_some]
      cases step? tables relation root <;> rfl
    | cons first rest ih =>
      rw [List.cons_append, navigate?, navigate?, Option.bind_assoc]
      congr 1
      funext tuple
      exact ih tuple
  rw [reached, reached, hsnoc]
  cases navigate? tables relations root with
  | none =>
    rw [Option.bind_none, Option.getD_none, step?_absent]
    rfl
  | some tuple => rw [Option.bind_some, Option.getD_some]

theorem cellAt_eq (path : FieldPath) {leaf : String} (hleaf : path.leaf? = some leaf) (root : Tuple) :
    cellAt tables path root = reached tables path.relations root leaf := by
  rw [cellAt, hleaf, reached]
  cases navigate? tables path.relations root <;> rfl

/-! ### One join -/

/-- No two rows have the same key. -/
def DistinctIds (tuples : List Tuple) : Prop :=
  tuples.Pairwise fun a b => sameCell (a idColumn) (b idColumn) = false

theorem DistinctIds.filter_eq {tuples : List Tuple} (h : DistinctIds tuples) (key : Cell) :
    tuples.filter (fun tuple => sameCell (tuple idColumn) key) =
      (tuples.find? fun tuple => sameCell (tuple idColumn) key).toList := by
  induction tuples with
  | nil => rfl
  | cons tuple tuples ih =>
    obtain ⟨hfirst, hrest⟩ := List.pairwise_cons.1 h
    cases hsame : sameCell (tuple idColumn) key with
    | false => simpa [hsame] using ih hrest
    | true =>
      have hnone : tuples.filter (fun other => sameCell (other idColumn) key) = [] := by
        rw [List.filter_eq_nil_iff]
        intro other hother hkey
        exact Bool.eq_false_iff.1 (hfirst other hother) (sameCell_of_common hsame hkey)
      simp [hsame, hnone]

theorem matching?_eq {join : Sql.Join} {row : JoinedRow} {key : Tuple → Bool}
    (h : ∀ tuple, (row ++ [(join.name, tuple)]).holds? join.on = some (key tuple)) (tuples : List Tuple) :
    matching? join row tuples = some ((tuples.filter key).map fun tuple => row ++ [(join.name, tuple)]) := by
  induction tuples with
  | nil => rfl
  | cons tuple tuples ih =>
    rw [matching?, h, ih]
    cases hkey : key tuple <;> simp [hkey]

theorem JoinedRow.cell?_of_mem {row : JoinedRow} (hnodup : (row.map Prod.fst).Nodup) {qualifier : String} {tuple : Tuple}
    (h : (qualifier, tuple) ∈ row) (name : String) : row.cell? (.column (some qualifier) name) = some (tuple name) := by
  have hfilter : row.filter (fun entry => entry.1 == qualifier) = [(qualifier, tuple)] := by
    induction row with
    | nil => cases h
    | cons entry row ih =>
      obtain ⟨hfirst, hrest⟩ := List.nodup_cons.1 hnodup
      rcases List.mem_cons.1 h with rfl | h
      · have hnone : row.filter (fun entry => entry.1 == qualifier) = [] := by
          rw [List.filter_eq_nil_iff]
          intro other hother hname
          exact hfirst (List.mem_map.2 ⟨other, hother, eq_of_beq hname⟩)
        simp [hnone]
      · have hne : entry.1 ≠ qualifier := by
          rintro rfl
          exact hfirst (List.mem_map.2 ⟨_, h, rfl⟩)
        simpa [hne] using ih hrest h
  rw [cell?, hfilter]

/-- The row for a record of the root after some joins. -/
def rowOf (tables : String → List Tuple) (root : String) (joins : List PlannedJoin) (tuple : Tuple) : JoinedRow :=
  (root, tuple) :: joins.map fun join => (join.name, reached tables join.relations tuple)

variable {registry : Registry} {root : String} {joins : List PlannedJoin}

theorem mem_rowOf (h : Plan.Joined registry root joins) {relations : List String} (hknown : Plan.Known joins relations)
    (tuple : Tuple) :
    (Plan.qualifier root relations, reached tables relations tuple) ∈ rowOf tables root joins tuple := by
  rcases hknown with rfl | ⟨join, hjoin, rfl⟩
  · exact List.mem_cons_self
  · refine List.mem_cons_of_mem _ (List.mem_map.2 ⟨join, hjoin, ?_⟩)
    rw [h.name_eq hjoin]

theorem map_fst_rowOf (tuple : Tuple) :
    (rowOf tables root joins tuple).map Prod.fst = root :: joins.map (·.name) := by
  rw [rowOf, List.map_cons, List.map_map]
  rfl

theorem rowOf_snoc (join : PlannedJoin) (tuple : Tuple) :
    rowOf tables root (joins ++ [join]) tuple =
      rowOf tables root joins tuple ++ [(join.name, reached tables join.relations tuple)] := by
  rw [rowOf, List.map_append, List.map_singleton]
  rfl

theorem cell?_rowOf (h : Plan.Joined registry root joins) {relations : List String} (hknown : Plan.Known joins relations)
    (tuple : Tuple) (name : String) :
    (rowOf tables root joins tuple).cell? (.column (some (Plan.qualifier root relations)) name) =
      some (reached tables relations tuple name) := by
  refine JoinedRow.cell?_of_mem ?_ (mem_rowOf h hknown tuple) name
  rw [map_fst_rowOf]
  exact h.nodup_names

/-- One more join puts the record beside the row that one more relation leads to. -/
theorem joinRow?_rowOf (h : Plan.Joined registry root joins) {followed : List String} {relation : String}
    (hknown : Plan.Known joins followed)
    (hfresh : Plan.qualifier root (followed ++ [relation]) ∉ root :: joins.map (·.name))
    (hids : DistinctIds (tables relation)) (tuple : Tuple) :
    joinRow? tables (Plan.joinClause (Plan.joinOf root followed relation)) (rowOf tables root joins tuple) =
      some [rowOf tables root (joins ++ [Plan.joinOf root followed relation]) tuple] := by
  let join := Plan.joinOf root followed relation
  -- the new name is fresh, so both columns of the condition mean one row: the candidate and the parent
  have hnodup : ∀ other : Tuple, ((rowOf tables root joins tuple ++ [(join.name, other)]).map Prod.fst).Nodup := by
    intro other
    rw [List.map_append, map_fst_rowOf]
    exact h.nodup_names.append (List.nodup_singleton _) (List.disjoint_singleton.2 hfresh)
  have hholds : ∀ other : Tuple, (rowOf tables root joins tuple ++ [(join.name, other)]).holds? (Plan.joinClause join).on =
      some (sameCell (other idColumn) (reached tables followed tuple (relation ++ "Id"))) := by
    intro other
    have hother := JoinedRow.cell?_of_mem (hnodup other) (List.mem_append_right _ List.mem_cons_self) idColumn
    have hparent : _ = some (reached tables followed tuple (relation ++ "Id")) :=
      JoinedRow.cell?_of_mem (hnodup other) (List.mem_append_left _ (mem_rowOf h hknown tuple)) _
    change (do some (sameCell (← JoinedRow.cell? _ (.column (some join.name) idColumn))
      (← JoinedRow.cell? _ (.column (some (Plan.qualifier root followed)) (relation ++ "Id"))))) = _
    rw [hother, hparent]
    rfl
  have hnext : reached tables (followed ++ [relation]) tuple = _ := reached_snoc followed relation tuple
  rw [joinRow?, matching?_eq hholds]
  change (some (((tables relation).filter _).map _)).map _ = _
  rw [hids.filter_eq, ← step?, Option.map_some, rowOf_snoc]
  change _ = some [rowOf tables root joins tuple ++ [(join.name, reached tables (followed ++ [relation]) tuple)]]
  rw [hnext]
  cases step? tables relation (reached tables followed tuple) <;> rfl

/-! ### All joins -/

theorem joinAll?_append (first second : List Sql.Join) (rows : List JoinedRow) :
    joinAll? tables (first ++ second) rows = (joinAll? tables first rows).bind (joinAll? tables second) := by
  induction first generalizing rows with
  | nil => rfl
  | cons join first ih =>
    rw [List.cons_append, joinAll?, joinAll?]
    cases rows.mapM (joinRow? tables join) with
    | none => rfl
    | some joined => exact ih _

/-- The joins of a plan put beside each record of the root what their relations lead to. -/
theorem joinAll?_eq (h : Plan.Joined registry root joins) (hids : ∀ name, DistinctIds (tables name)) (tuples : List Tuple) :
    joinAll? tables (joins.map Plan.joinClause) (tuples.map fun tuple => [(root, tuple)]) =
      some (tuples.map (rowOf tables root joins)) := by
  induction h with
  | nil => rfl
  | @snoc joins followed relation h hknown _ _ hfresh ih =>
    let join := Plan.joinOf root followed relation
    have hrows : (tuples.map (rowOf tables root joins)).mapM (joinRow? tables (Plan.joinClause join)) =
        some (tuples.map fun tuple => [rowOf tables root (joins ++ [join]) tuple]) := by
      rw [List.mapM_map]
      exact mapM_eq_some fun tuple _ => joinRow?_rowOf h hknown hfresh (hids relation) tuple
    rw [List.map_append, joinAll?_append, ih, Option.bind_some, List.map_singleton, joinAll?, hrows]
    change some (tuples.map fun tuple => [rowOf tables root (joins ++ [join]) tuple]).flatten = _
    rw [← List.flatMap_def, ← List.map_eq_flatMap]

/-! ### Selections -/

theorem mapM_cell?_rowOf {plan : Plan} (hplan : Plan.Sound registry plan) {paths : List FieldPath} {items : List Sql.Expr}
    (h : List.Forall₂ plan.Reads paths items) (tuple : Tuple) :
    items.mapM (rowOf tables plan.root plan.joins tuple).cell? = some (paths.map fun path => cellAt tables path tuple) := by
  induction h with
  | nil => rfl
  | @cons path item paths items hread _ ih =>
    obtain ⟨leaf, hleaf, -, hknown, rfl⟩ := hread
    rw [List.mapM_cons, cell?_rowOf hplan.joins hknown, ih, List.map_cons, cellAt_eq path hleaf]
    rfl

theorem evalSelect?_eq {plan : Plan} (hplan : Plan.Sound registry plan) {paths : List FieldPath} {items : List Sql.Expr}
    (h : List.Forall₂ plan.Reads paths items) (hids : ∀ name, DistinctIds (tables name)) :
    evalSelect? tables ⟨items, some plan.source, none, [], none⟩ =
      some ((tables plan.root).map fun tuple => paths.map fun path => cellAt tables path tuple) := by
  change (joinAll? tables (plan.joins.map Plan.joinClause)
    ((tables plan.root).map fun tuple => [(plan.root, tuple)])).bind _ = _
  rw [joinAll?_eq hplan.joins hids, Option.bind_some, List.mapM_map]
  exact mapM_eq_some fun tuple _ => mapM_cell?_rowOf hplan h tuple

/-- Without a condition, an order and bounds, the text that is compiled for a query has one row for each record of the queried class, in the order of the records, and every column holds what its path leads to from there. -/
theorem Query.rows_of_compiled_text {registry : Registry} {query : Query} {bindings : Bindings} {compiled : CompiledQuery}
    (h : query.compile registry bindings = .ok compiled) (hfilter : query.filter = none) (horder : query.orderBy = [])
    (hlimit : query.limit = none) (hoffset : query.offset = none) {tables : String → List Tuple}
    (hids : ∀ name, DistinctIds (tables name)) :
    ∃ s, Sql.Statement.read? compiled.sql = some (.select s) ∧
      evalSelect? tables s =
        some ((tables query.source).map fun root => compiled.projection.map fun path => cellAt tables path root) := by
  obtain ⟨plan, himplements⟩ := compile_spec h
  have hterms := himplements.order
  rw [horder, List.forall₂_nil_left_iff] at hterms
  refine ⟨_, himplements.read?_sql, ?_⟩
  rw [himplements.filter_eq_none hfilter, hterms, himplements.paging_eq_none hlimit hoffset, Option.map_none,
    evalSelect?_eq himplements.sound himplements.items hids, himplements.root_eq, himplements.projection_eq]

/-- Contacts and what they lead to, by paths of which some have relations in common. -/
def contactQuery : Query :=
  .select "Contact" [⟨["LastName"]⟩, ⟨["Account", "Owner", "Name"]⟩, ⟨["Account", "Name"]⟩]

def ownedRegistry : Registry := ⟨[.bare "Owner", .bare "Account", .bare "Contact"]⟩

/-- Two contacts, one without an account, and an account whose owner is not there. -/
def contactTables : String → List Tuple
  | "Contact" => [
      fun | "id" => .integer 1 | "LastName" => .text "Ito" | "AccountId" => .integer 7 | _ => .null,
      fun | "id" => .integer 2 | "LastName" => .text "Kim" | _ => .null]
  | "Account" => [fun | "id" => .integer 7 | "Name" => .text "Acme" | "OwnerId" => .integer 9 | _ => .null]
  | _ => []

theorem rows_of_contact_text : ∃ compiled s, contactQuery.compile ownedRegistry [] = .ok compiled ∧
    Sql.Statement.read? compiled.sql = some (.select s) ∧
      evalSelect? contactTables s = some [[.text "Ito", .null, .text "Acme"], [.text "Kim", .null, .null]] := by
  have hids : ∀ name, DistinctIds (contactTables name) := by
    intro name
    rw [contactTables.eq_def]
    split
    · apply List.pairwise_pair.2
      decide
    · exact List.pairwise_singleton ..
    · exact .nil
  have hcompiled : contactQuery.compile ownedRegistry [] = .ok _ := rfl
  obtain ⟨s, hread, heval⟩ := Query.rows_of_compiled_text hcompiled rfl rfl rfl rfl hids
  exact ⟨_, s, hcompiled, hread, heval⟩

end ObjectStore
