import ObjectStore.Proofs.Query.Trees
import ObjectStore.Proofs.Value.Equality

/-!
# Columns in another order

The order of the columns decides which column brings a related record into being, in which order the fields of a record came, and which column fails first. It does not decide whether a row becomes a record, nor what stands in any field of it. Records are compared without regard to the order of their fields, so the records of rearranged columns are equal; only a number that equals nothing, not even itself, can keep them from it.
-/

namespace ObjectStore

/-! ### Equality -/

namespace Value

theorem same_self_of_isScalar {value : Value} (hscalar : value.isScalar = true) (hnan : value.nanFree = true) :
    value.same value = true := by
  cases value with
  | double d =>
    rw [nanFree, Bool.not_eq_true'] at hnan
    simp [same, Double.equal, hnan]
  | object className fields => cases hscalar
  | list items => cases hscalar
  | _ => simp [same]

/-- The same scalar twice, or two records of one class. -/
inductive Corresponds : Value → Value → Prop where
  | scalar {value : Value} (h : value.isScalar = true) : Corresponds value value
  | record (className : String) (inner other : List (String × Value)) :
      Corresponds (.object className inner) (.object className other)

end Value

namespace Fields

variable {fields others inner : List (String × Value)}

/-- The same names on every level, in whatever order, and field by field what corresponds. -/
structure Alike (fields others : List (String × Value)) : Prop where
  distinct : ∀ relations, (names (level relations fields)).Nodup
  names_perm : ∀ relations, (names (level relations fields)).Perm (names (level relations others))
  corresponds : ∀ relations name value, (level relations fields).lookup name = some value →
    ∃ other, (level relations others).lookup name = some other ∧ value.Corresponds other

theorem Alike.below {name className className' : String} {inner' : List (String × Value)} (h : Alike fields others)
    (hfield : fields.lookup name = some (.object className inner))
    (hother : others.lookup name = some (.object className' inner')) : Alike inner inner' := by
  have hinner : related name fields = inner := by rw [related, hfield]
  have hinner' : related name others = inner' := by rw [related, hother]
  subst hinner hinner'
  exact ⟨fun relations => h.distinct (name :: relations), fun relations => h.names_perm (name :: relations),
    fun relations => h.corresponds (name :: relations)⟩

/-- Trees that are alike are equal, from the innermost records outwards. -/
theorem Alike.same {fields others : List (String × Value)} (h : Alike fields others)
    (hnan : Value.nanFreeFields fields = true) (className : String) :
    (Value.object className fields).same (.object className others) = true := by
  have hlength : fields.length = others.length := by
    have hnames := (h.names_perm []).length_eq
    simpa only [names, level, List.length_map] using hnames
  have hfields : Value.sameFields fields others = true := by
    rw [Value.sameFields_iff]
    intro field hfield
    obtain ⟨name, value⟩ := field
    have hlookup := lookup_of_mem (h.distinct []) hfield
    obtain ⟨other, hother, hcorresponds⟩ := h.corresponds [] name value hlookup
    have hvalue := Value.nanFreeFields_iff.1 hnan _ hfield
    refine ⟨other, hother, ?_⟩
    cases hcorresponds with
    | scalar hscalar => exact Value.same_self_of_isScalar hscalar hvalue
    | record innerName inner inner' => exact (h.below hlookup hother).same hvalue innerName
  rw [Value.same, hfields, hlength, beq_self_eq_true, beq_self_eq_true]
  rfl
termination_by sizeOf fields
decreasing_by
  have hsize := List.sizeOf_lt_of_mem hfield
  simp only [Prod.mk.sizeOf_spec, Value.object.sizeOf_spec] at hsize
  omega

theorem Filled.alike {placed rearranged : List (FieldPath × Value)} (h : Filled placed fields) (h' : Filled rearranged others)
    (hcolumns : ∀ entry, entry ∈ rearranged ↔ entry ∈ placed)
    (hapart : ∀ entry ∈ placed, ∀ other ∈ placed, entry.1.segments <+: other.1.segments → entry = other) :
    Alike fields others := by
  -- a column that ends where another one passes would be a beginning of it
  have hends : ∀ {relations name value entry}, (⟨relations ++ [name]⟩, value) ∈ placed → entry ∈ placed →
      ¬ relations ++ [name] <+: entry.1.relations := by
    intro relations name value entry hcolumn hentry hpasses
    rw [← hapart _ hcolumn entry hentry (hpasses.trans (List.dropLast_prefix _))] at hpasses
    exact FieldPath.not_prefix_relations relations name hpasses
  have hmem : ∀ relations name, name ∈ names (level relations fields) ↔ name ∈ names (level relations others) := by
    intro relations name
    simp only [h.names_eq, h'.names_eq, List.mem_eraseDups, List.mem_filterMap, List.mem_map, hcolumns]
  refine ⟨fun relations => ?_, fun relations => ?_, fun relations name value hvalue => ?_⟩
  · rw [h.names_eq]
    exact nodup_eraseDups _
  · rw [List.perm_ext_iff_of_nodup (by rw [h.names_eq]; exact nodup_eraseDups _)
      (by rw [h'.names_eq]; exact nodup_eraseDups _)]
    exact hmem relations
  · obtain ⟨other, hother⟩ := mem_names_iff.1 ((hmem relations name).1 (mem_names_iff.2 ⟨value, hvalue⟩))
    refine ⟨other, hother, ?_⟩
    cases h.stands _ _ _ hvalue with
    | column hscalar hcolumn =>
      cases h'.stands _ _ _ hother with
      | column hscalar' hcolumn' =>
        cases hapart _ hcolumn _ ((hcolumns _).1 hcolumn') (List.prefix_refl _)
        exact .scalar hscalar
      | relation inner hentry hpasses => exact absurd hpasses (hends hcolumn ((hcolumns _).1 hentry))
    | relation inner hentry hpasses =>
      cases h'.stands _ _ _ hother with
      | column hscalar' hcolumn' => exact absurd hpasses (hends ((hcolumns _).1 hcolumn') hentry)
      | relation inner' hentry' hpasses' => exact .record name inner inner'

end Fields

/-! ### Rows -/

theorem FieldPath.Compatible.perm {projection rearranged : List FieldPath} (h : FieldPath.Compatible projection) (hpaths : rearranged.Perm projection) :
    FieldPath.Compatible rearranged where
  nonempty path hpath := h.nonempty path (hpaths.mem_iff.1 hpath)
  distinct := hpaths.nodup_iff.2 h.distinct
  apart path hpath other hother := h.apart path (hpaths.mem_iff.1 hpath) other (hpaths.mem_iff.1 hother)

namespace Registry

variable {registry : Registry} {target : ClassType} {projection rearranged : List FieldPath} {row cells : Row}
  {record other : Record}

/-- A row becomes a record exactly if the paths can be followed and the row fits. -/
theorem materializeRow_isOk_iff : (∃ record, registry.materializeRow target projection row = .ok record) ↔
    registry.Reached target projection ∧ registry.Fits target projection row := by
  constructor
  · rintro ⟨record, hrecord⟩
    have hreached := reached_of_materializeRow hrecord
    exact ⟨hreached, (materializeRow_eq_ok hreached hrecord).1⟩
  · rintro ⟨hreached, hfits⟩
    obtain ⟨record, hrecord, -⟩ := hfits.materializeRow hreached
    exact ⟨record, hrecord⟩

/-- The columns of a row in another order, each with its path. -/
structure Rearranged (projection rearranged : List FieldPath) (row cells : Row) : Prop where
  width : row.length = projection.length
  cells_length : cells.length = rearranged.length
  paths : rearranged.Perm projection
  columns : (rearranged.zip cells).Perm (projection.zip row)

theorem Rearranged.isOk_iff (h : Rearranged projection rearranged row cells) :
    (∃ record, registry.materializeRow target projection row = .ok record) ↔
      ∃ other, registry.materializeRow target rearranged cells = .ok other := by
  rw [materializeRow_isOk_iff, materializeRow_isOk_iff]
  have hreached : registry.Reached target projection ↔ registry.Reached target rearranged := by
    simp only [Reached, h.paths.mem_iff]
  have hfits : registry.Fits target projection row ↔ registry.Fits target rearranged cells := by
    constructor
    · exact fun hfits => ⟨h.cells_length, fun column hcolumn => hfits.converts column (h.columns.mem_iff.1 hcolumn)⟩
    · exact fun hfits => ⟨h.width, fun column hcolumn => hfits.converts column (h.columns.mem_iff.2 hcolumn)⟩
  rw [hreached, hfits]

/-- The values are those of the columns, each with the path of its column. -/
theorem FilledBy.mem_zip_iff {values : List Value} (h : registry.FilledBy target projection row record values)
    (hwidth : row.length = projection.length) (path : FieldPath) (value : Value) : (path, value) ∈ projection.zip values ↔
      ∃ cell, (path, cell) ∈ projection.zip row ∧ registry.columnValue target (path, cell) = .ok value := by
  have hconverts := List.forall₂_iff_zip.1 h.converts
  rw [zip_values values hwidth, List.mem_map]
  constructor
  · rintro ⟨⟨⟨path', cell⟩, value'⟩, hentry, heq⟩
    cases heq
    exact ⟨cell, (List.of_mem_zip hentry).1, hconverts.2 hentry⟩
  · rintro ⟨cell, hcolumn, hvalue⟩
    rw [← List.map_fst_zip h.converts.length_eq.le] at hcolumn
    obtain ⟨⟨column, value'⟩, hentry, rfl⟩ := List.mem_map.1 hcolumn
    have hvalue' := hconverts.2 hentry
    rw [hvalue, Except.ok.injEq] at hvalue'
    exact ⟨_, hentry, by rw [hvalue']⟩

theorem Rearranged.same (h : Rearranged projection rearranged row cells) (hpaths : FieldPath.Compatible projection)
    (hrecord : registry.materializeRow target projection row = .ok record)
    (hother : registry.materializeRow target rearranged cells = .ok other) (hnan : record.nanFree = true) :
    record.same other = true := by
  have hbecomes := (materializeRow_eq_ok (reached_of_materializeRow hrecord) hrecord).2
  have hbecomes' := (materializeRow_eq_ok (reached_of_materializeRow hother) hother).2
  obtain ⟨values, hfilled⟩ := hbecomes.filledBy hpaths
  obtain ⟨values', hfilled'⟩ := hbecomes'.filledBy (hpaths.perm h.paths)
  have hcolumns : ∀ entry, entry ∈ rearranged.zip values' ↔ entry ∈ projection.zip values := by
    rintro ⟨path, value⟩
    simp only [hfilled.mem_zip_iff h.width, hfilled'.mem_zip_iff h.cells_length, h.columns.mem_iff]
  have hapart : ∀ entry ∈ projection.zip values, ∀ other ∈ projection.zip values,
      entry.1.segments <+: other.1.segments → entry = other := by
    intro entry hentry other hother hstarts
    have heq := hpaths.apart entry.1 (List.of_mem_zip hentry).1 other.1 (List.of_mem_zip hother).1 hstarts
    have hdistinct : ((projection.zip values).map Prod.fst).Nodup := by
      rw [hfilled.paths_eq]
      exact hpaths.distinct
    exact List.inj_on_of_nodup_map hdistinct hentry hother heq
  have halike := hfilled.filled.alike hfilled'.filled hcolumns hapart
  rw [Record.same, Value.ofRecord, Value.ofRecord, hbecomes.className, hbecomes'.className]
  exact halike.same hnan target.name

end Registry

/-! ### Columns by their places -/

/-- The elements in the order of the given places. -/
def arrange {α : Type} (order : List Nat) (elements : List α) : List α :=
  order.filterMap (elements[·]?)

theorem arrange_perm {α : Type} {order : List Nat} {elements : List α} (h : order.Perm (List.range elements.length)) :
    (arrange order elements).Perm elements := by
  have hall : (List.range elements.length).filterMap (elements[·]?) = elements := by
    clear h
    induction elements with
    | nil => rfl
    | cons first elements ih =>
      rw [List.length_cons, List.range_succ_eq_map, List.filterMap_cons_some (List.getElem?_cons_zero), List.filterMap_map]
      exact congrArg (first :: ·) ih
  have hperm := h.filterMap (elements[·]?)
  rwa [hall] at hperm

theorem arrange_zip {α β : Type} (order : List Nat) {first : List α} {second : List β} (h : first.length = second.length) :
    arrange order (first.zip second) = (arrange order first).zip (arrange order second) := by
  induction order with
  | nil => rfl
  | cons place order ih =>
    simp only [arrange, List.filterMap_cons] at ih ⊢
    rcases Nat.lt_or_ge place first.length with hplace | hplace
    · have hzip : (first.zip second)[place]? = some (first[place], second[place]) :=
        List.getElem?_zip_eq_some.2 ⟨List.getElem?_eq_getElem _, List.getElem?_eq_getElem _⟩
      simp only [hzip, List.getElem?_eq_getElem hplace, List.getElem?_eq_getElem (h ▸ hplace), ih, List.zip_cons_cons]
    · have hzip : (first.zip second)[place]? = none := by
        rw [List.getElem?_eq_none_iff, List.length_zip]
        omega
      simp only [hzip, List.getElem?_eq_none hplace, List.getElem?_eq_none (h ▸ hplace), ih]

theorem rearranged_arrange {projection : List FieldPath} {row : Row} {order : List Nat}
    (hwidth : row.length = projection.length) (horder : order.Perm (List.range projection.length)) :
    Registry.Rearranged projection (arrange order projection) row (arrange order row) where
  width := hwidth
  cells_length := by
    rw [(arrange_perm horder).length_eq, (arrange_perm (hwidth ▸ horder)).length_eq, hwidth]
  paths := arrange_perm horder
  columns := by
    rw [← arrange_zip order hwidth.symm]
    apply arrange_perm
    rwa [List.length_zip, hwidth, min_self]

/-- Rearranging the columns of a projection and of all rows alike does not change whether the rows become records, and the records are equal. -/
theorem Registry.materialize_arrange {registry : Registry} {target : ClassType} {projection : List FieldPath}
    {rows : List Row} {order : List Nat} (hpaths : FieldPath.Compatible projection)
    (hwidth : ∀ row ∈ rows, row.length = projection.length) (horder : order.Perm (List.range projection.length)) :
    ((∃ records, registry.materialize target projection rows = .ok records) ↔
      ∃ others, registry.materialize target (arrange order projection) (rows.map (arrange order)) = .ok others) ∧
    ∀ records others, registry.materialize target projection rows = .ok records →
      registry.materialize target (arrange order projection) (rows.map (arrange order)) = .ok others →
        List.Forall₂ (fun record other => record.nanFree = true → record.same other = true) records others := by
  have hrows : ∀ row ∈ rows, Rearranged projection (arrange order projection) row (arrange order row) :=
    fun row hrow => rearranged_arrange (hwidth row hrow) horder
  have hmap : registry.materialize target (arrange order projection) (rows.map (arrange order)) =
      rows.mapM fun row => registry.materializeRow target (arrange order projection) (arrange order row) :=
    List.mapM_map
  rw [hmap, materialize]
  refine ⟨⟨?_, ?_⟩, fun records others hrecords hothers => ?_⟩
  · rintro ⟨records, hrecords⟩
    exact exists_mapM_eq_ok fun row hrow => (hrows row hrow).isOk_iff.1 (exists_of_mapM_eq_ok hrecords hrow)
  · rintro ⟨others, hothers⟩
    exact exists_mapM_eq_ok fun row hrow => (hrows row hrow).isOk_iff.2 (exists_of_mapM_eq_ok hothers hrow)
  · exact forall₂_of_common (forall₂_of_mapM hrecords) (forall₂_of_mapM hothers) fun row hrow record other hrecord hother =>
      (hrows row hrow).same hpaths hrecord hother

/-- The column that brought the related records into being comes last. -/
theorem ownerRow_rearranged : ∃ other,
    ownerRegistry.materialize (.bare "Contact") (arrange [3, 1, 2, 0] ownerPaths) [arrange [3, 1, 2, 0] ownerRow] =
      .ok [other] ∧
    ownerRecord.same other = true := by
  have hother : ownerRegistry.materialize (.bare "Contact") (arrange [3, 1, 2, 0] ownerPaths)
      [arrange [3, 1, 2, 0] ownerRow] = .ok [_] := rfl
  have hsame := (Registry.materialize_arrange ownerPaths_compatible (by decide) (by decide)).2 _ _ materialize_ownerRow
    hother
  exact ⟨_, hother, (List.forall₂_cons.1 hsame).1 (by decide)⟩

end ObjectStore
