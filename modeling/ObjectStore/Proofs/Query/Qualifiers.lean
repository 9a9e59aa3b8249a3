import ObjectStore.Proofs.Query.Scoping

/-!
# Table names as the store compares them

Every column in the text of a compiled query stands behind the name of a table, and these names are different. The store, however, takes names that differ only in the case of ASCII letters for the same. So the name before a column means one table exactly if the stages of the query's paths have names that differ in more than case, from each other and from the root. Looking up a path compares names as they are written, so a query is compiled whether or not this holds.
-/

namespace ObjectStore

open Tables

/-! ### The tables that a name means -/

namespace Sql

namespace Source

/-- The names of the tables, in the order in which they are joined. -/
def names (source : Source) : List String :=
  source.table :: source.joins.map (·.name)

/-- No two tables have the same name for the store. -/
def Apart (source : Source) : Prop :=
  source.names.Pairwise fun name other => Text.sameName name other = false

/-- The names of the tables that a reference means for the store. -/
def meant (source : Source) (reference : Reference) : List String :=
  source.names.filter fun name => reference.1.all (Text.sameName name)

variable {source : Source}

theorem mem_meant {name other column : String} :
    other ∈ source.meant (some name, column) ↔ other ∈ source.names ∧ Text.sameName other name = true :=
  List.mem_filter

theorem Apart.meant_eq (h : source.Apart) {name : String} (hname : name ∈ source.names) (column : String) :
    source.meant (some name, column) = [name] := by
  obtain ⟨before, after, hnames⟩ := List.append_of_mem hname
  rw [Apart, hnames, List.pairwise_append, List.pairwise_cons] at h
  obtain ⟨-, ⟨hafter, -⟩, hbefore⟩ := h
  have hleft : before.filter (fun other => Text.sameName other name) = [] := by
    refine List.filter_eq_nil_iff.2 fun other hother => ?_
    rw [hbefore other hother name List.mem_cons_self]
    exact Bool.false_ne_true
  have hright : after.filter (fun other => Text.sameName other name) = [] := by
    refine List.filter_eq_nil_iff.2 fun other hother hsame => ?_
    have hunlike := hafter other hother
    rw [Text.sameName_symm hsame] at hunlike
    cases hunlike
  have hown : ([name].filter fun other => Text.sameName other name) = [name] :=
    List.filter_eq_self.2 fun other hother => List.mem_singleton.1 hother ▸ Text.sameName_self other
  rw [meant, hnames, List.append_cons, List.filter_append, List.filter_append]
  exact congrArg₂ (· ++ ·) (congrArg₂ (· ++ ·) hleft hown) hright

theorem apart_iff (hnodup : source.names.Nodup) :
    source.Apart ↔ ∀ name ∈ source.names, ∀ other ∈ source.names, Text.sameName name other = true → name = other := by
  constructor
  · intro h name hname other hother hsame
    have hmeant : name ∈ source.meant (some other, idColumn) := mem_meant.2 ⟨hname, hsame⟩
    rw [h.meant_eq hother] at hmeant
    exact List.mem_singleton.1 hmeant
  · intro h
    exact hnodup.pairwise_of_forall_ne fun name hname other hother hne =>
      Bool.eq_false_iff.2 fun hsame => hne (h name hname other hother hsame)

/-- Tables with different names are apart if the name of each join means one table, since of two tables at least one is joined. -/
theorem apart_of_meant (hnodup : source.names.Nodup)
    (h : ∀ join ∈ source.joins, ∃ column only, source.meant (some join.name, column) = [only]) : source.Apart := by
  have hjoined : ∀ name ∈ source.names, ∀ join ∈ source.joins, Text.sameName name join.name = true → name = join.name := by
    intro name hname join hjoin hsame
    obtain ⟨column, only, honly⟩ := h join hjoin
    have hfirst : name ∈ source.meant (some join.name, column) := mem_meant.2 ⟨hname, hsame⟩
    have hown : join.name ∈ source.meant (some join.name, column) :=
      mem_meant.2 ⟨List.mem_cons_of_mem _ (List.mem_map_of_mem hjoin), Text.sameName_self _⟩
    rw [honly, List.mem_singleton] at hfirst hown
    rw [hfirst, hown]
  refine (apart_iff hnodup).2 fun name hname other hother hsame => ?_
  rcases List.mem_cons.1 hother with rfl | hother
  · rcases List.mem_cons.1 hname with rfl | hname
    · rfl
    · obtain ⟨join, hjoin, rfl⟩ := List.mem_map.1 hname
      exact (hjoined _ hother join hjoin (Text.sameName_symm hsame)).symm
  · obtain ⟨join, hjoin, rfl⟩ := List.mem_map.1 hother
    exact hjoined name hname join hjoin hsame

theorem find_eq_filterMap (scope : Scope) (reference : Reference) :
    scope.find reference.1 reference.2 =
      (scope.filter fun bound => reference.1.all (Text.sameName bound.qualifier)).filterMap fun bound =>
        cellIn bound.columns bound.cells reference.2 := by
  rw [List.filterMap_filter]
  rfl

theorem length_filter_scope {scope : Scope} (hscope : scope.map (·.qualifier) = source.names) (reference : Reference) :
    (scope.filter fun bound => reference.1.all (Text.sameName bound.qualifier)).length =
      (source.meant reference).length := by
  rw [meant, ← hscope, List.filter_map, List.length_map]
  rfl

/-- A reference finds at most one cell in each table that it means. -/
theorem length_find_le {scope : Scope} (hscope : scope.map (·.qualifier) = source.names) (reference : Reference) :
    (scope.find reference.1 reference.2).length ≤ (source.meant reference).length := by
  rw [find_eq_filterMap, ← length_filter_scope hscope]
  exact List.length_filterMap_le _ _

/-- Rows of the tables, each with one cell, which is in a column with the given name. -/
def blanks (source : Source) (column : String) : Scope :=
  source.names.map fun name => ⟨name, [⟨column, .none, false⟩], [.null]⟩

theorem map_qualifier_blanks (source : Source) (column : String) :
    (source.blanks column).map (·.qualifier) = source.names := by
  rw [blanks, List.map_map]
  exact List.map_id _

theorem length_find_blanks (source : Source) (reference : Reference) :
    ((source.blanks reference.2).find reference.1 reference.2).length = (source.meant reference).length := by
  have hcell : cellIn [⟨reference.2, .none, false⟩] [.null] reference.2 = some (.none, .null) :=
    if_pos (Text.sameName_self reference.2)
  rw [find_eq_filterMap, blanks, List.filter_map, List.filterMap_map, meant]
  simp only [Function.comp_def, hcell]
  rw [List.filterMap_eq_map', List.length_map]

/-- A name of a table means one table exactly if it never finds two cells, whatever columns the tables have. -/
theorem meant_eq_singleton_iff {reference : Reference} {name : String} (hname : name ∈ source.names)
    (hreference : reference.1 = some name) :
    (∃ only, source.meant reference = [only]) ↔
      ∀ scope : Scope, scope.map (·.qualifier) = source.names → (scope.find reference.1 reference.2).length ≤ 1 := by
  constructor
  · rintro ⟨only, honly⟩ scope hscope
    have hle := length_find_le hscope reference
    rwa [honly] at hle
  · intro h
    have hle := h _ (map_qualifier_blanks source reference.2)
    rw [length_find_blanks] at hle
    obtain ⟨qualifier, column⟩ := reference
    obtain rfl : qualifier = some name := hreference
    have hown : name ∈ source.meant (some name, column) := mem_meant.2 ⟨hname, Text.sameName_self name⟩
    exact List.length_eq_one_iff.1 (hle.antisymm (List.length_pos_of_mem hown))

end Source

/-- All columns that a selection refers to. -/
def Select.references (s : Select) : List Reference :=
  referencesOfAll s.items ++ referencesOfAll s.filter.toList ++
    referencesOfAll ((s.source.elim [] (·.joins)).map (·.on)) ++ referencesOfAll (s.order.map (·.expr))

end Sql

namespace Query

variable {registry : Registry} {query : Query} {bindings : Bindings} {compiled : CompiledQuery} {s : Sql.Select}

/-- The names of the stages differ in more than case, from each other and from the root. -/
structure SpelledApart (query : Query) : Prop where
  injective : ∀ stage ∈ query.stages, ∀ other ∈ query.stages,
    Text.sameName ("_".intercalate stage) ("_".intercalate other) = true → stage = other
  unlike_root : ∀ stage ∈ query.stages, Text.sameName ("_".intercalate stage) query.source = false

theorem names_clause : (⟨query.source, query.stages.map (Plan.stageJoin query.source)⟩ : Sql.Source).names =
    query.source :: query.stages.map ("_".intercalate ·) := by
  rw [Sql.Source.names, List.map_map]
  rfl

theorem mem_stages_of_prefix {path : FieldPath} {relations : List String} (hpath : path ∈ query.paths)
    (h : relations <+: path.relations) : relations = [] ∨ relations ∈ query.stages :=
  or_iff_not_imp_left.2 fun hne => mem_stages.2 ⟨path, hpath, hne, h⟩

theorem qualifier_mem_names {path : FieldPath} {relations : List String} (hpath : path ∈ query.paths)
    (h : relations <+: path.relations) :
    Plan.qualifier query.source relations ∈ query.source :: query.stages.map ("_".intercalate ·) := by
  rcases mem_stages_of_prefix hpath h with rfl | hstage
  · exact List.mem_cons_self
  · obtain ⟨relation, rest, rfl⟩ := List.exists_cons_of_ne_nil (stage_ne_nil hstage)
    exact List.mem_cons_of_mem _ (List.mem_map_of_mem hstage)

/-- The references of a selection in scope: of its paths, and of each join to its own table and to the one before. -/
theorem Scoped.references_eq (h : query.Scoped bindings s) :
    s.references = (query.fields ++ query.comparedFields bindings).map (·.reference query.source) ++
      query.stages.flatMap (fun stage => [(some ("_".intercalate stage), idColumn),
        (some (Plan.qualifier query.source stage.dropLast), stage.getLastD "" ++ "Id")]) ++
      query.orderFields.map (·.reference query.source) := by
  have hcolumns : ∀ paths : List FieldPath, referencesOfAll (paths.map (·.columnFrom query.source)) =
      paths.map (·.reference query.source) := by
    intro paths
    rw [referencesOfAll_eq_flatMap, List.flatMap_map, List.map_eq_flatMap]
    rfl
  have horder : s.order.map (·.expr) = query.orderFields.map (·.columnFrom query.source) := by
    rw [h.order, orderFields, List.map_map, List.map_map]
    rfl
  have hjoins : referencesOfAll ((s.source.elim [] (·.joins)).map (·.on)) =
      query.stages.flatMap fun stage => [(some ("_".intercalate stage), idColumn),
        (some (Plan.qualifier query.source stage.dropLast), stage.getLastD "" ++ "Id")] := by
    rw [h.source, referencesOfAll_eq_flatMap, Option.elim_some, List.map_map, List.flatMap_map]
    rfl
  rw [Sql.Select.references, h.items, hcolumns, h.filter, hjoins, horder, hcolumns, List.map_append]

theorem comparedFields_subset : query.comparedFields bindings ⊆ query.tests.map (·.field) := by
  intro path hpath
  obtain ⟨test, htest, rfl⟩ := List.mem_map.1 hpath
  exact List.mem_map_of_mem (List.mem_of_mem_filter htest)

/-- Every column stands behind the name of a table. -/
theorem Scoped.qualified (h : query.Scoped bindings s) {reference : Reference} (hreference : reference ∈ s.references) :
    ∃ name ∈ query.source :: query.stages.map ("_".intercalate ·), reference.1 = some name := by
  rw [h.references_eq, List.mem_append, List.mem_append, List.mem_map, List.mem_flatMap, List.mem_map] at hreference
  rcases hreference with (⟨path, hpath, rfl⟩ | ⟨stage, hstage, hreference⟩) | ⟨path, hpath, rfl⟩
  · have hpath : path ∈ query.paths :=
      List.mem_append_left _ ((List.mem_append.1 hpath).elim (List.mem_append_left _)
        fun hpath => List.mem_append_right _ (comparedFields_subset hpath))
    exact ⟨_, qualifier_mem_names hpath List.prefix_rfl, rfl⟩
  · obtain ⟨path, hpath, -, hprefix⟩ := (h.mem_stages stage).1 hstage
    rcases List.mem_pair.1 hreference with rfl | rfl
    · exact ⟨_, List.mem_cons_of_mem _ (List.mem_map_of_mem hstage), rfl⟩
    · exact ⟨_, qualifier_mem_names hpath ((List.dropLast_prefix stage).trans hprefix), rfl⟩
  · exact ⟨_, qualifier_mem_names (List.mem_append_right _ hpath) List.prefix_rfl, rfl⟩

theorem apart_iff_spelledApart {source : Sql.Source}
    (hnames : source.names = query.source :: query.stages.map ("_".intercalate ·)) (hnodup : source.names.Nodup) :
    source.Apart ↔ query.SpelledApart := by
  rw [Sql.Source.apart_iff hnodup, hnames]
  rw [hnames, List.nodup_cons] at hnodup
  obtain ⟨hroot, hstages⟩ := hnodup
  constructor
  · intro h
    constructor
    · intro stage hstage other hother hsame
      exact List.inj_on_of_nodup_map hstages hstage hother (h _ (List.mem_cons_of_mem _ (List.mem_map_of_mem hstage)) _
        (List.mem_cons_of_mem _ (List.mem_map_of_mem hother)) hsame)
    · intro stage hstage
      have hname : "_".intercalate stage ∈ query.stages.map ("_".intercalate ·) := List.mem_map_of_mem hstage
      refine Bool.eq_false_iff.2 fun hsame => hroot ?_
      rwa [← h _ (List.mem_cons_of_mem _ hname) _ List.mem_cons_self hsame]
  · intro h name hname other hother hsame
    rcases List.mem_cons.1 hname with rfl | hname
    · rcases List.mem_cons.1 hother with rfl | hother
      · rfl
      · obtain ⟨stage, hstage, rfl⟩ := List.mem_map.1 hother
        exact absurd (Text.sameName_symm hsame) (Bool.eq_false_iff.1 (h.unlike_root stage hstage))
    · obtain ⟨stage, hstage, rfl⟩ := List.mem_map.1 hname
      rcases List.mem_cons.1 hother with rfl | hother
      · exact absurd hsame (Bool.eq_false_iff.1 (h.unlike_root stage hstage))
      · obtain ⟨last, hlast, rfl⟩ := List.mem_map.1 hother
        rw [h.injective stage hstage last hlast hsame]

/-- Every column means one table exactly if the tables are apart, since each join refers to its own table. -/
theorem Scoped.each_means_one_iff (h : query.Scoped bindings s) {source : Sql.Source} (hsource : s.source = some source)
    (hnames : source.names = query.source :: query.stages.map ("_".intercalate ·)) (hnodup : source.names.Nodup) :
    (∀ reference ∈ s.references, ∃ only, source.meant reference = [only]) ↔ source.Apart := by
  constructor
  · intro hone
    refine Sql.Source.apart_of_meant hnodup fun join hjoin => ?_
    obtain rfl := Option.some.inj (h.source.symm.trans hsource)
    obtain ⟨stage, hstage, rfl⟩ := List.mem_map.1 hjoin
    refine ⟨idColumn, hone _ ?_⟩
    rw [h.references_eq]
    exact List.mem_append_left _ (List.mem_append_right _ (List.mem_flatMap.2 ⟨stage, hstage, List.mem_cons_self⟩))
  · intro hapart reference hreference
    obtain ⟨name, hname, hqualifier⟩ := h.qualified hreference
    obtain ⟨qualifier, column⟩ := reference
    obtain rfl : qualifier = some name := hqualifier
    exact ⟨name, hapart.meant_eq (hnames ▸ hname) column⟩

/-- What the names in the text of a compiled query mean. As they are written, all tables have different names and every column stands behind one of them. For the store, the tables have different names exactly if those of the stages differ in more than case; exactly then each column means one table; and exactly then no column is ambiguous, whatever the tables have in them. -/
theorem names_mean_one_table_iff (h : query.compile registry bindings = .ok compiled) :
    ∃ s source, Sql.Statement.read? compiled.sql = some (.select s) ∧ s.source = some source ∧ source.names.Nodup ∧
      (∀ reference ∈ s.references, ∃ name ∈ source.names, reference.1 = some name) ∧
      (source.Apart ↔ query.SpelledApart) ∧
      ((∀ reference ∈ s.references, ∃ name, source.meant reference = [name]) ↔ query.SpelledApart) ∧
      ((∀ reference ∈ s.references, ∀ scope : Scope, scope.map (·.qualifier) = source.names →
        (scope.find reference.1 reference.2).length ≤ 1) ↔ query.SpelledApart) := by
  obtain ⟨s, hread, hscoped⟩ := exists_scoped h
  have hnodup := hscoped.names_nodup
  rw [← names_clause] at hnodup
  have hqualified : ∀ reference ∈ s.references, ∃ name ∈ Sql.Source.names _, reference.1 = some name :=
    fun reference hreference => names_clause ▸ hscoped.qualified hreference
  have hapart := apart_iff_spelledApart names_clause hnodup
  have hone := (hscoped.each_means_one_iff hscoped.source names_clause hnodup).trans hapart
  refine ⟨s, _, hread, hscoped.source, hnodup, hqualified, hapart, hone, ?_⟩
  rw [← hone]
  refine forall₂_congr fun reference hreference => ?_
  obtain ⟨name, hname, hqualifier⟩ := hqualified reference hreference
  exact (Sql.Source.meant_eq_singleton_iff hname hqualifier).symm

theorem peerQuery_names : ∃ compiled s source,
    peerQuery.compile Condition.contactRegistry [("pattern", .string "A%")] = .ok compiled ∧
      Sql.Statement.read? compiled.sql = some (.select s) ∧ s.source = some source ∧
      ∀ reference ∈ s.references, ∃ name, source.meant reference = [name] := by
  have hcompiled : peerQuery.compile Condition.contactRegistry [("pattern", .string "A%")] = .ok _ := rfl
  have hapart : peerQuery.SpelledApart := ⟨by decide, by decide⟩
  obtain ⟨s, source, hread, hsource, -, -, -, hone, -⟩ := names_mean_one_table_iff hcompiled
  exact ⟨_, s, source, hcompiled, hread, hsource, hone.2 hapart⟩

/-- A relation followed from another, and a class whose name differs in case only from theirs with an underscore between. -/
def twoUsers : Query :=
  .select "Contact" [⟨["Account", "User", "Name"]⟩, ⟨["account_user", "Name"]⟩]

/-- The query is compiled, and both of its columns mean two tables. -/
theorem twoUsers_ambiguous : ∃ compiled s source,
    twoUsers.compile ⟨[.bare "Account", .bare "Contact", .bare "User", .bare "account_user"]⟩ [] = .ok compiled ∧
      Sql.Statement.read? compiled.sql = some (.select s) ∧ s.source = some source ∧ ¬ source.Apart ∧
      ∀ reference ∈ referencesOfAll s.items, source.meant reference = ["Account_User", "account_user"] := by
  have hcompiled : twoUsers.compile ⟨[.bare "Account", .bare "Contact", .bare "User", .bare "account_user"]⟩ [] =
      .ok _ := rfl
  obtain ⟨s, hread, hscoped⟩ := exists_scoped hcompiled
  refine ⟨_, s, _, hcompiled, hread, hscoped.source, ?_, ?_⟩
  · rw [Sql.Source.Apart, names_clause]
    decide
  · rw [hscoped.items]
    decide

end Query

end ObjectStore
