import ObjectStore.Proofs.Query.Filters
import ObjectStore.Proofs.Sql.Statements

/-!
# What compiled queries consist of

Compiling threads one plan through the selected paths, the condition and the ordering, so every column that ends up in the statement belongs to a table of the final plan. That is all that is needed to read the text of the statement back.
-/

namespace ObjectStore

namespace Plan

variable {registry : Registry}

/-- The selected columns read the selected paths, of which no two are the same. -/
theorem selectColumns_spec {paths before : List FieldPath} {index : Nat} {plan plan' : Plan} {items : List Sql.Expr}
    (hplan : Sound registry plan) (h : plan.selectColumns registry index before paths = .ok (items, plan')) :
    Extends registry plan plan' ∧ List.Forall₂ (Reads plan') paths items ∧ paths.Nodup ∧ ∀ path ∈ paths, path ∉ before := by
  induction paths generalizing index before plan items with
  | nil =>
    cases h
    exact ⟨.refl hplan, .nil, .nil, fun _ hpath => absurd hpath List.not_mem_nil⟩
  | cons path paths ih =>
    rw [selectColumns] at h
    split at h
    · cases h
    · split at h
      · cases h
      · next hnew =>
        rw [bind_eq_ok] at h
        obtain ⟨⟨column, grown⟩, hcolumn, h⟩ := h
        obtain ⟨⟨columns, last⟩, hcolumns, h⟩ := bind_eq_ok.1 h
        cases h
        obtain ⟨hextends, hreads⟩ := column?_spec hplan hcolumn
        obtain ⟨hlast, hall, hnodup, hbefore⟩ := ih hextends.sound hcolumns
        refine ⟨hextends.trans hlast, .cons (hreads.mono hlast) hall, ?_, ?_⟩
        · exact List.nodup_cons.2 ⟨fun hmem => hbefore path hmem List.mem_cons_self, hnodup⟩
        · intro other hother
          rcases List.mem_cons.1 hother with rfl | hother
          · exact hnew
          · exact fun hmem => hbefore other hother (List.mem_cons_of_mem _ hmem)

theorem addPaths_spec {paths : List FieldPath} {index : Nat} {plan plan' : Plan} (hplan : Sound registry plan)
    (h : plan.addPaths registry index paths = .ok plan') : Extends registry plan plan' := by
  induction paths generalizing index plan with
  | nil =>
    cases h
    exact .refl hplan
  | cons path paths ih =>
    rw [addPaths, bind_eq_ok] at h
    obtain ⟨⟨column, grown⟩, hcolumn, h⟩ := h
    obtain ⟨hextends, -⟩ := column?_spec hplan hcolumn
    exact hextends.trans (ih hextends.sound h)

theorem filterExpr_spec {bindings : Bindings} {filter : Option Condition} {plan plan' : Plan} {result : Option Sql.Expr}
    (hplan : Sound registry plan) (h : plan.filterExpr registry bindings filter = .ok (result, plan')) :
    Extends registry plan plan' ∧ (∀ e ∈ result, Sql.Phrase .disjoined e) ∧ (filter = none → result = none) := by
  cases filter with
  | none =>
    cases h
    exact ⟨.refl hplan, fun _ he => absurd he (by simp), fun _ => rfl⟩
  | some condition =>
    rw [filterExpr, bind_eq_ok] at h
    obtain ⟨grown, hgrown, h⟩ := h
    obtain ⟨⟨e, last⟩, he, h⟩ := bind_eq_ok.1 h
    cases h
    have hextends := addPaths_spec hplan hgrown
    obtain ⟨hlast, hdecides⟩ := Condition.expr_decides condition hextends.sound he
    refine ⟨hextends.trans hlast, fun other hother => ?_, fun hnone => by cases hnone⟩
    cases hother
    exact .ofConjoined (.ofNegated hdecides.phrase)

theorem orderTerms_spec {orders : List OrderBy} {index : Nat} {plan plan' : Plan} {terms : List Sql.OrderTerm}
    (hplan : Sound registry plan) (h : plan.orderTerms registry index orders = .ok (terms, plan')) :
    Extends registry plan plan' ∧ List.Forall₂ (fun order term => Reads plan' order.field term.expr) orders terms := by
  induction orders generalizing index plan terms with
  | nil =>
    cases h
    exact ⟨.refl hplan, .nil⟩
  | cons order orders ih =>
    rw [orderTerms, bind_eq_ok] at h
    obtain ⟨⟨column, grown⟩, hcolumn, h⟩ := h
    obtain ⟨⟨rest, last⟩, hrest, h⟩ := bind_eq_ok.1 h
    cases h
    obtain ⟨hextends, hreads⟩ := column?_spec hplan hcolumn
    obtain ⟨hlast, hall⟩ := ih hextends.sound hrest
    exact ⟨hextends.trans hlast, .cons (hreads.mono hlast) hall⟩

end Plan

/-- What a query is compiled to, with the final plan. -/
structure CompiledQuery.Implements (compiled : CompiledQuery) (registry : Registry) (query : Query) (plan : Plan) :
    Prop where
  sound : Plan.Sound registry plan
  root_eq : plan.root = query.source
  target_eq : registry.lookup? query.source = some compiled.target
  projection_eq : compiled.projection = query.fields
  fields_ne_nil : query.fields ≠ []
  fields_nodup : query.fields.Nodup
  source_eq : compiled.select.source = some plan.source
  items : List.Forall₂ plan.Reads query.fields compiled.select.items
  filter : ∀ e ∈ compiled.select.filter, Sql.Phrase .disjoined e
  filter_eq_none : query.filter = none → compiled.select.filter = none
  order : List.Forall₂ (fun order term => plan.Reads order.field term.expr) query.orderBy compiled.select.order
  paging_eq_none : query.limit = none → query.offset = none → compiled.select.paging = none

private theorem rowCount_eq_none {clause : String} {count : Option Int64} (h : rowCount clause none = .ok count) :
    count = none := by
  cases h
  rfl

theorem Query.compile_spec {registry : Registry} {query : Query} {bindings : Bindings} {compiled : CompiledQuery}
    (h : query.compile registry bindings = .ok compiled) : ∃ plan, compiled.Implements registry query plan := by
  simp only [compile, bind_eq_ok] at h
  obtain ⟨source, hsource, target, htarget, h⟩ := h
  obtain ⟨hidentifier, rfl⟩ := checkIdentifier_eq_ok hsource
  have hlookup : registry.lookup? query.source = some target := by
    rw [Registry.resolve] at htarget
    split at htarget
    · next hc =>
      cases htarget
      exact hc
    · cases htarget
  split at h
  · cases h
  · next hfields =>
    simp only [bind_eq_ok] at h
    obtain ⟨⟨items, selected⟩, hitems, ⟨filter, filtered⟩, hfilter, ⟨order, plan⟩, horder, limit, hlimit, offset,
      hoffset, h⟩ := h
    cases h
    obtain ⟨hextends, hreads, hnodup, -⟩ := Plan.selectColumns_spec (Plan.sound_start registry hidentifier) hitems
    obtain ⟨hfiltered, hphrase, hnone⟩ := Plan.filterExpr_spec hextends.sound hfilter
    obtain ⟨hordered, hterms⟩ := Plan.orderTerms_spec hfiltered.sound horder
    have hlast := hfiltered.trans hordered
    refine ⟨plan, ⟨hordered.sound, ?_, hlookup, rfl, ?_, hnodup, rfl, ?_, hphrase, hnone, hterms, ?_⟩⟩
    · rw [hlast.root_eq, hextends.root_eq, Plan.start]
    · rwa [List.isEmpty_iff] at hfields
    · exact hreads.imp fun _ _ hread => hread.mono hlast
    · intro hl ho
      rw [hl] at hlimit
      rw [ho] at hoffset
      rw [rowCount_eq_none hlimit, rowCount_eq_none hoffset, paging]

/-! ### The text of the selection -/

namespace Plan

variable {registry : Registry} {plan : Plan}

theorem Reads.phrase {path : FieldPath} {e : Sql.Expr} (hplan : Sound registry plan) (h : Reads plan path e) :
    Sql.Phrase .disjoined e := by
  obtain ⟨leaf, -, hleaf, hknown, rfl⟩ := h
  exact .disjoined_of_operand (.column (hplan.joins.isIdentifier_qualifier hplan.root hknown) hleaf)

theorem Reads.normal_eq {path : FieldPath} {e : Sql.Expr} (h : Reads plan path e) : e.normal = e := by
  obtain ⟨leaf, -, -, -, rfl⟩ := h
  rfl

theorem Joined.readable {root : String} (hroot : Text.isIdentifier root = true) {joins : List PlannedJoin}
    (h : Joined registry root joins) : ∀ join ∈ joins, (joinClause join).Readable := by
  induction h with
  | nil => exact fun _ hjoin => absurd hjoin List.not_mem_nil
  | @snoc joins followed relation h hknown hrelation hclass hfresh ih =>
    intro join hjoin
    rcases List.mem_append.1 hjoin with hjoin | hjoin
    · exact ih join hjoin
    · obtain rfl := List.mem_singleton.1 hjoin
      have hname := (h.snoc hknown hrelation hclass hfresh).isIdentifier_qualifier hroot
        (.inr ⟨joinOf root followed relation, List.mem_append_right _ List.mem_cons_self, rfl⟩)
      have hparent := h.isIdentifier_qualifier hroot hknown
      have hkey : Text.isIdentifier (relation ++ "Id") = true :=
        Text.isIdentifier_append hrelation (List.all_eq_true.1 rfl)
      have hid : Text.isIdentifier idColumn = true := by decide
      have hcolumn : Sql.Phrase .joined (.column (some (qualifier root followed)) (relation ++ "Id")) :=
        .ofOperand (.column hparent hkey)
      exact ⟨hrelation, hname, .ofConjoined (.ofNegated (.compare .equal hname hid hcolumn))⟩

end Plan

namespace CompiledQuery.Implements

variable {compiled : CompiledQuery} {registry : Registry} {query : Query} {plan : Plan}

theorem readable (h : compiled.Implements registry query plan) : compiled.select.Readable where
  items_ne_nil hnil := by
    have hitems := h.items
    rw [hnil, List.forall₂_nil_right_iff] at hitems
    exact h.fields_ne_nil hitems
  items item hitem := by
    obtain ⟨path, -, hread⟩ := exists_of_mem_forall₂ h.items hitem
    exact hread.phrase h.sound
  table source hsource := by
    rw [h.source_eq, Option.mem_some_iff] at hsource
    subst hsource
    exact h.sound.root
  joins source hsource join hjoin := by
    rw [h.source_eq, Option.mem_some_iff] at hsource
    subst hsource
    obtain ⟨planned, hplanned, rfl⟩ := List.mem_map.1 hjoin
    exact h.sound.joins.readable h.sound.root planned hplanned
  filter := h.filter
  order term hterm := by
    obtain ⟨order, -, hread⟩ := exists_of_mem_forall₂ h.order hterm
    exact hread.phrase h.sound

/-- Only the condition can be written so that it is read in another form. -/
theorem normal_eq (h : compiled.Implements registry query plan) :
    compiled.select.normal = ⟨compiled.select.items, some plan.source, compiled.select.filter.map Sql.Expr.normal,
      compiled.select.order, compiled.select.paging⟩ := by
  have hitems : compiled.select.items.map Sql.Expr.normal = compiled.select.items := by
    refine (List.map_congr_left fun item hitem => ?_).trans (List.map_id _)
    obtain ⟨path, -, hread⟩ := exists_of_mem_forall₂ h.items hitem
    exact hread.normal_eq
  have horder : compiled.select.order.map Sql.OrderTerm.normal = compiled.select.order := by
    refine (List.map_congr_left fun term hterm => ?_).trans (List.map_id _)
    obtain ⟨order, -, hread⟩ := exists_of_mem_forall₂ h.order hterm
    rw [Sql.OrderTerm.normal, hread.normal_eq]
    rfl
  have hsource : compiled.select.source.map Sql.Source.normal = some plan.source := by
    rw [h.source_eq, Option.map_some, Sql.Source.normal, Plan.source, List.map_map]
    rfl
  rw [Sql.Select.normal, hitems, hsource, horder]

theorem read?_sql (h : compiled.Implements registry query plan) :
    Sql.Statement.read? compiled.sql =
      some (.select ⟨compiled.select.items, some plan.source, compiled.select.filter.map Sql.Expr.normal,
        compiled.select.order, compiled.select.paging⟩) := by
  rw [← h.normal_eq]
  exact Sql.Statement.read?_select h.readable

end CompiledQuery.Implements

end ObjectStore
