import ObjectStore.Proofs.Query.Placement

/-!
# What becomes of rows

The compiler follows the relations of a path once, when it first meets them, and the rows of a result are taken through them again, each by itself. Both look the same classes up, so a row of a compiled query can only fail by its own contents: by its width, or else by its first column that does not convert.
-/

namespace ObjectStore

namespace Registry

variable {registry : Registry} {target : ClassType} {projection : List FieldPath} {row : Row}

/-- A row has a column for each path, and all of them convert. -/
structure Fits (registry : Registry) (target : ClassType) (projection : List FieldPath) (row : Row) : Prop where
  width : row.length = projection.length
  converts : ∀ column ∈ projection.zip row, ∃ value, registry.columnValue target column = .ok value

/-- What is wrong with a row: its width, or with the right width its first column that does not convert. -/
inductive Faulty (registry : Registry) (target : ClassType) (projection : List FieldPath) (row : Row) : Error → Prop where
  | width (h : row.length ≠ projection.length) :
      Faulty registry target projection row (.execution (.projectionMismatch projection.length row.length))
  | conversion {before after : List (FieldPath × Cell)} {column : FieldPath × Cell} {e : ConversionError}
      (hwidth : row.length = projection.length) (hcolumns : projection.zip row = before ++ column :: after)
      (hbefore : ∀ earlier ∈ before, ∃ value, registry.columnValue target earlier = .ok value)
      (hcolumn : registry.columnValue target column = .error e) : Faulty registry target projection row (.conversion e)

/-- A row becomes the record of the class that has the values of its columns at the ends of their paths. -/
structure Becomes (registry : Registry) (target : ClassType) (projection : List FieldPath) (row : Row) (record : Record) :
    Prop where
  className : record.className = target.name
  width : row.length = projection.length
  fields : ∃ values, List.Forall₂ (fun column value => registry.columnValue target column = .ok value)
    (projection.zip row) values ∧ record.fields = Fields.putAll (projection.zip values) []

/-- Each row becomes a record if all of them fit, and else the first one that does not is to blame. -/
structure Materialized (registry : Registry) (target : ClassType) (projection : List FieldPath) (rows : List Row)
    (result : Except Error (List Record)) : Prop where
  records : (∀ row ∈ rows, registry.Fits target projection row) →
    ∃ records, result = .ok records ∧ List.Forall₂ (registry.Becomes target projection) rows records
  fault : (¬ ∀ row ∈ rows, registry.Fits target projection row) → ∃ before row after e, rows = before ++ row :: after ∧
    (∀ earlier ∈ before, registry.Fits target projection earlier) ∧ registry.Faulty target projection row e ∧
    result = .error e
  no_compile_error : ∀ e, result ≠ .error (.compile e)

theorem placeColumns_eq_error {before after : List (FieldPath × Cell)} {column : FieldPath × Cell} {e : ConversionError}
    (hpaths : ∀ entry ∈ before ++ column :: after, ∃ leaf last, entry.1.leaf? = some leaf ∧
      registry.reach? target entry.1.relations = some last)
    (hbefore : ∀ earlier ∈ before, ∃ value, registry.columnValue target earlier = .ok value)
    (hcolumn : registry.columnValue target column = .error e) (index : Nat) (fields : List (String × Value)) :
    registry.placeColumns target index (before ++ column :: after) fields = .error (.conversion e) := by
  induction before generalizing index fields with
  | nil =>
    obtain ⟨path, cell⟩ := column
    obtain ⟨leaf, last, hleaf, hreach⟩ := hpaths (path, cell) List.mem_cons_self
    rw [columnValue_eq hleaf hreach] at hcolumn
    rw [List.nil_append, placeColumns, hleaf]
    exact bind_eq_error.2 (.inl (by rw [place_of_reach? hreach, hcolumn]))
  | cons first before ih =>
    obtain ⟨path, cell⟩ := first
    obtain ⟨⟨value, hvalue⟩, hrest⟩ := List.forall_mem_cons.1 hbefore
    obtain ⟨leaf, last, hleaf, hreach⟩ := hpaths (path, cell) List.mem_cons_self
    rw [columnValue_eq hleaf hreach] at hvalue
    rw [List.cons_append, placeColumns, hleaf]
    refine bind_eq_error.2 (.inr ⟨_, by rw [place_of_reach? hreach, hvalue], ?_⟩)
    exact ih (fun entry hentry => hpaths entry (List.mem_cons_of_mem _ hentry)) hrest (index + 1) _

theorem fits_or_faulty (registry : Registry) (target : ClassType) (projection : List FieldPath) (row : Row) :
    registry.Fits target projection row ∨ ∃ e, registry.Faulty target projection row e := by
  by_cases hwidth : row.length = projection.length
  · rcases all_ok_or_first_error (registry.columnValue target) (projection.zip row) with
      hall | ⟨before, column, after, e, hcolumns, hbefore, hcolumn⟩
    · exact .inl ⟨hwidth, hall⟩
    · exact .inr ⟨_, .conversion hwidth hcolumns hbefore hcolumn⟩
  · exact .inr ⟨_, .width hwidth⟩

theorem Fits.materializeRow (h : registry.Fits target projection row) (hpaths : registry.Reached target projection) :
    ∃ record, registry.materializeRow target projection row = .ok record ∧ registry.Becomes target projection row record := by
  obtain ⟨values, hvalues⟩ := exists_mapM_eq_ok h.converts
  exact ⟨_, materializeRow_eq hpaths h.width hvalues, rfl, h.width, values, forall₂_of_mapM hvalues, rfl⟩

theorem Faulty.materializeRow {e : Error} (h : registry.Faulty target projection row e)
    (hpaths : registry.Reached target projection) : registry.materializeRow target projection row = .error e := by
  rw [Registry.materializeRow]
  cases h with
  | width hwidth => rw [if_pos hwidth]
  | conversion hwidth hcolumns hbefore hcolumn =>
    have hzip : ∀ entry ∈ projection.zip row, ∃ leaf last, entry.1.leaf? = some leaf ∧
        registry.reach? target entry.1.relations = some last :=
      fun entry hentry => hpaths entry.1 (List.of_mem_zip hentry).1
    rw [hcolumns] at hzip
    rw [if_neg (not_not.2 hwidth), hcolumns]
    exact bind_eq_error.2 (.inl (placeColumns_eq_error hzip hbefore hcolumn 0 []))

theorem materializeRow_eq_ok {record : Record} (hpaths : registry.Reached target projection)
    (h : registry.materializeRow target projection row = .ok record) :
    registry.Fits target projection row ∧ registry.Becomes target projection row record := by
  rcases registry.fits_or_faulty target projection row with hfits | ⟨e, hfaulty⟩
  · obtain ⟨other, hother, hbecomes⟩ := hfits.materializeRow hpaths
    rw [h] at hother
    cases hother
    exact ⟨hfits, hbecomes⟩
  · rw [hfaulty.materializeRow hpaths] at h
    cases h

theorem materializeRow_eq_error {e : Error} (hpaths : registry.Reached target projection)
    (h : registry.materializeRow target projection row = .error e) :
    ¬ registry.Fits target projection row ∧ registry.Faulty target projection row e := by
  rcases registry.fits_or_faulty target projection row with hfits | ⟨e', hfaulty⟩
  · obtain ⟨record, hrecord, -⟩ := hfits.materializeRow hpaths
    rw [h] at hrecord
    cases hrecord
  · have hsame := hfaulty.materializeRow hpaths
    rw [h] at hsame
    cases hsame
    refine ⟨fun hfits => ?_, hfaulty⟩
    obtain ⟨record, hrecord, -⟩ := hfits.materializeRow hpaths
    rw [h] at hrecord
    cases hrecord

/-- The rows of a result are taken in order, up to the first that does not fit. -/
theorem materialized (hpaths : registry.Reached target projection) (rows : List Row) :
    registry.Materialized target projection rows (registry.materialize target projection rows) := by
  rw [materialize]
  rcases all_ok_or_first_error (registry.materializeRow target projection) rows with
    hall | ⟨before, row, after, e, rfl, hbefore, hrow⟩
  · obtain ⟨records, hrecords⟩ := exists_mapM_eq_ok hall
    refine ⟨fun _ => ⟨records, hrecords, ?_⟩, fun hnot => ?_, fun e he => ?_⟩
    · exact (forall₂_of_mapM hrecords).imp fun _ _ hrecord => (materializeRow_eq_ok hpaths hrecord).2
    · refine absurd (fun row hrow => ?_) hnot
      obtain ⟨record, hrecord⟩ := hall row hrow
      exact (materializeRow_eq_ok hpaths hrecord).1
    · rw [hrecords] at he
      cases he
  · obtain ⟨hunfit, hfaulty⟩ := materializeRow_eq_error hpaths hrow
    rw [mapM_eq_error hbefore hrow]
    refine ⟨fun hall => ?_, fun _ => ⟨before, row, after, e, rfl, fun earlier hearlier => ?_, hfaulty, rfl⟩, fun e' he => ?_⟩
    · exact absurd (hall row (List.mem_append_right _ List.mem_cons_self)) hunfit
    · obtain ⟨record, hrecord⟩ := hbefore earlier hearlier
      exact (materializeRow_eq_ok hpaths hrecord).1
    · cases he
      cases hfaulty

end Registry

end ObjectStore
