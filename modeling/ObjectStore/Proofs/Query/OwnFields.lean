import ObjectStore.Proofs.Query.Placement
import ObjectStore.Proofs.Tables.Selection

/-!
# Queries for fields of the record itself

A query for fields of a class, for those of its records that have a text in a field, follows no relation and so needs no join. It is compiled to a selection of the columns by one equality. A row with the cells of scalars becomes a record with these scalars again, if the class declares the fields with their kinds.
-/

namespace ObjectStore

/-- The path of a field of the record itself. -/
def FieldPath.own (field : String) : FieldPath := ⟨[field]⟩

/-- The query for fields of the records of a class that have a value in the field `key`. -/
def Query.byField (className : String) (fields : List String) (key : String) (operand : Operand) : Query :=
  (Query.select className (fields.map .own)).filtered (.compare (.own key) .equal operand)

variable {registry : Registry} {c : ClassType} {className key text : String} {fields : List String} {operand : Operand}
  {bindings : Bindings}

/-! ### The compiled query -/

theorem Plan.column?_own (plan : Plan) {field : String} (h : Text.isIdentifier field = true) (index : Nat) :
    plan.column? registry (.own field) index = .ok (.column (some plan.root) field, plan) := by
  have hcheck : checkIdentifier field = .ok field := if_pos h
  have hleaf : (FieldPath.own field).leaf? = some field := rfl
  have hrelations : (FieldPath.own field).relations = [] := rfl
  simp only [column?, column, hleaf, hcheck, hrelations, follow]

theorem Plan.selectColumns_own (plan : Plan) (hfields : ∀ field ∈ fields, Text.isIdentifier field = true)
    (hnodup : fields.Nodup) (index : Nat) {before : List FieldPath} (hbefore : ∀ field ∈ fields, .own field ∉ before) :
    plan.selectColumns registry index before (fields.map .own) =
      .ok (fields.map fun field => .column (some plan.root) field, plan) := by
  induction fields generalizing index before with
  | nil => rfl
  | cons field fields ih =>
    obtain ⟨hnew, hrest⟩ := List.nodup_cons.1 hnodup
    have hothers : ∀ other ∈ fields, FieldPath.own other ∉ .own field :: before := by
      intro other hother hmem
      rcases List.mem_cons.1 hmem with heq | hmem
      · cases heq
        exact hnew hother
      · exact hbefore other (List.mem_cons_of_mem _ hother) hmem
    rw [List.map_cons, selectColumns, if_neg (by exact Bool.false_ne_true), if_neg (hbefore field List.mem_cons_self),
      column?_own plan (hfields field List.mem_cons_self)]
    have hcolumns := ih (fun other hother => hfields other (List.mem_cons_of_mem _ hother)) hrest (index + 1) hothers
    exact bind_eq_ok.2 ⟨_, rfl, bind_eq_ok.2 ⟨_, hcolumns, rfl⟩⟩

theorem Query.compile_byField (hclass : Text.isIdentifier className = true)
    (htarget : registry.lookup? className = some c) (hne : fields ≠ [])
    (hfields : ∀ field ∈ fields, Text.isIdentifier field = true) (hnodup : fields.Nodup)
    (hkey : Text.isIdentifier key = true) (hoperand : operand.resolve bindings = .ok (.string text)) :
    (byField className fields key operand).compile registry bindings =
      .ok ⟨Tables.selectByText className fields key (.ofText text), fields.map .own, c⟩ := by
  have hsource : checkIdentifier className = .ok className := if_pos hclass
  have hresolve : registry.resolve className = .ok c := by rw [Registry.resolve, htarget]
  have hnonempty : ¬ (fields.map FieldPath.own).isEmpty = true := by
    rwa [List.isEmpty_iff, List.map_eq_nil_iff]
  have hitems : (Plan.start className).selectColumns registry 0 [] (fields.map .own) =
      .ok (fields.map fun field => .column (some className) field, .start className) :=
    Plan.selectColumns_own _ hfields hnodup 0 fun _ _ => List.not_mem_nil
  have hfilter : (Plan.start className).filterExpr registry bindings (some (.compare (.own key) .equal operand)) =
      .ok (some (.compare .equal (.column (some className) key) (.ofText text)), .start className) := by
    have hcolumn : (Plan.start className).column? registry (.own key) 0 =
        .ok (.column (some className) key, .start className) := Plan.column?_own _ hkey 0
    have hpaths : (Plan.start className).addPaths registry 0 [.own key] = .ok (.start className) :=
      bind_eq_ok.2 ⟨_, hcolumn, rfl⟩
    have hexpr : (Condition.compare (.own key) .equal operand).expr registry bindings (.start className) =
        .ok (.compare .equal (.column (some className) key) (.ofText text), .start className) :=
      bind_eq_ok.2 ⟨_, hcolumn, bind_eq_ok.2 ⟨_, hoperand, rfl⟩⟩
    exact bind_eq_ok.2 ⟨_, hpaths, bind_eq_ok.2 ⟨_, hexpr, rfl⟩⟩
  simp only [compile, byField, select, filtered, bind_eq_ok]
  refine ⟨_, hsource, _, hresolve, ?_⟩
  refine (if_neg hnonempty).trans ?_
  simp only [bind_eq_ok]
  exact ⟨_, hitems, _, hfilter, _, rfl, _, rfl, _, rfl, rfl⟩

theorem Query.read?_byField {compiled : CompiledQuery}
    (h : (byField className fields key operand).compile registry bindings = .ok compiled)
    (hselect : compiled.select = Tables.selectByText className fields key (.ofText text)) :
    Sql.Statement.read? compiled.sql = some (.select (Tables.selectByText className fields key (.ofText text))) := by
  obtain ⟨plan, himplements⟩ := compile_spec h
  rw [himplements.read?_sql, ← himplements.source_eq, hselect, Tables.selectByText, Option.map_some, Sql.Expr.normal,
    Sql.Expr.normal, (Sql.Expr.Denotes.ofText text).normal_eq]

/-! ### The records of rows -/

/-- Whether a field of a kind takes a value and keeps it as it is in a cell. -/
def FieldType.keeps : FieldType → Value → Bool
  | _, .null => true
  | .string, .string _ => true
  | .id, .string _ => true
  | .reference _, .string _ => true
  | .integer, .integer _ => true
  | .boolean, .boolean _ => true
  | _, _ => false

theorem FieldType.convert_cell {kind : FieldType} {value : Value} (h : kind.keeps value = true) (display : String) :
    value.cell.convert (some kind) display = .ok value := by
  -- of the kinds only those that keep the value are left
  cases value with
  | null => rfl
  | string s => cases kind <;> cases h <;> rfl
  | integer n =>
    cases kind <;> cases h
    rfl
  | boolean b =>
    cases kind <;> cases h
    cases b <;> rfl
  | _ => cases kind <;> cases h

theorem Fields.putAll_own {before placed : List (String × Value)} (h : ((before ++ placed).map Prod.fst).Nodup) :
    putAll (placed.map fun field => (.own field.1, field.2)) before = before ++ placed := by
  induction placed generalizing before with
  | nil => rw [List.append_nil, List.map_nil, putAll]
  | cons field placed ih =>
    have hnew : field.1 ∉ before.map Prod.fst := by
      rw [List.map_append, List.map_cons, List.nodup_middle, List.nodup_cons] at h
      exact fun hmem => h.1 (List.mem_append_left _ hmem)
    rw [List.append_cons] at h ⊢
    rw [← ih h, List.map_cons, putAll]
    exact congrArg (putAll _) (set_of_not_mem hnew field.2)

/-- A row with the cells of fields becomes the record with these fields. -/
theorem Registry.materialize_own {selected : List (String × Value)} (hnodup : (selected.map Prod.fst).Nodup)
    (hdeclared : ∀ field ∈ selected, ∃ kind, c.fieldType? field.1 = some kind ∧ kind.keeps field.2 = true) :
    registry.materialize c ((selected.map Prod.fst).map .own) [selected.map (·.2.cell)] = .ok [⟨c.name, selected⟩] := by
  have hpaths : ∀ path ∈ (selected.map Prod.fst).map FieldPath.own, ∃ leaf last, path.leaf? = some leaf ∧
      registry.reach? c path.relations = some last := by
    intro path hpath
    obtain ⟨field, -, rfl⟩ := List.mem_map.1 hpath
    exact ⟨field, c, rfl, rfl⟩
  have hvalues : (((selected.map Prod.fst).map FieldPath.own).zip (selected.map (·.2.cell))).mapM
      (registry.columnValue c) = .ok (selected.map Prod.snd) := by
    clear hnodup hpaths
    induction selected with
    | nil => rfl
    | cons field selected ih =>
      obtain ⟨kind, hkind, hkeeps⟩ := hdeclared field List.mem_cons_self
      have hvalue : registry.columnValue c (.own field.1, field.2.cell) = .ok field.2 := by
        have hdeclared : registry.declared? c (.own field.1) = some kind := hkind
        rw [columnValue, hdeclared]
        exact FieldType.convert_cell hkeeps _
      simp only [List.map_cons, List.zip_cons_cons, List.mapM_cons]
      refine bind_eq_ok.2 ⟨_, hvalue, bind_eq_ok.2 ⟨_, ih fun other hother => ?_, rfl⟩⟩
      exact hdeclared other (List.mem_cons_of_mem _ hother)
  have hplaced : ((selected.map Prod.fst).map FieldPath.own).zip (selected.map Prod.snd) =
      selected.map fun field => (.own field.1, field.2) := by
    rw [List.map_map, List.zip_map']
    rfl
  have hfields : Fields.putAll (selected.map fun field => (.own field.1, field.2)) [] = selected :=
    Fields.putAll_own hnodup
  rw [materialize_singleton hpaths (by simp only [List.length_map]) hvalues, hplaced, hfields]

/-! ### Records with the same fields -/

theorem FieldType.same_self {kind : FieldType} {value : Value} (h : kind.keeps value = true) :
    value.same value = true := by
  cases value with
  | null => rfl
  | string s => exact beq_self_eq_true s
  | integer n => exact beq_self_eq_true n
  | boolean b => exact beq_self_eq_true b
  | _ => cases kind <;> cases h

theorem Record.same_of_perm {selected fields : List (String × Value)} (hperm : selected.Perm fields)
    (hnodup : (fields.map Prod.fst).Nodup) (hsame : ∀ field ∈ fields, field.2.same field.2 = true) (className : String) :
    (⟨className, selected⟩ : Record).same ⟨className, fields⟩ = true := by
  have hfields : ∀ part ⊆ fields, Value.sameFields part fields = true := by
    intro part hpart
    induction part with
    | nil => rfl
    | cons field part ih =>
      have hfield := hpart List.mem_cons_self
      rw [Value.sameFields, Fields.lookup_of_mem hnodup hfield, ih (List.subset_of_cons_subset hpart), Bool.and_true]
      exact hsame field hfield
  rw [same, Value.ofRecord, Value.ofRecord, Value.same, hfields selected hperm.subset, hperm.length_eq,
    beq_self_eq_true, beq_self_eq_true]
  rfl

end ObjectStore
