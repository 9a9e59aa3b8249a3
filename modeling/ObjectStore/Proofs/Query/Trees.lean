import ObjectStore.Proofs.Query.Levels
import ObjectStore.Proofs.Query.Rows
import ObjectStore.Proofs.Query.Stages

/-!
# The tree of a row

A row becomes a tree. There is a record for each beginning of the relations of a path, shared by all columns below it; the values of the columns stand at the ends of their paths, converted to the kinds that the classes of these records declare; and nothing else is there. This holds of every projection that one record has room for, which is one in which no path starts with another.
-/

namespace ObjectStore

/-- Paths that one record has room for: none is empty, no two are equal, and none starts with another one. -/
structure FieldPath.Compatible (projection : List FieldPath) : Prop where
  nonempty : ∀ path ∈ projection, path.segments ≠ []
  distinct : projection.Nodup
  apart : ∀ path ∈ projection, ∀ other ∈ projection, path.segments <+: other.segments → path = other

/-! ### Records of a tree -/

namespace Record

/-- The record at the end of relations. -/
def follow? : List String → Record → Option Record
  | [], record => some record
  | relation :: rest, record => (record.nested? relation).bind (follow? rest)

variable {relations : List String} {record nested : Record}

theorem follow?_append (relations others : List String) (record : Record) :
    follow? (relations ++ others) record = (follow? relations record).bind (follow? others) := by
  induction relations generalizing record with
  | nil => rfl
  | cons relation rest ih =>
    rw [List.cons_append, follow?, follow?, Option.bind_assoc]
    congr 1
    funext nested
    exact ih nested

theorem fields_of_follow? (h : record.follow? relations = some nested) :
    nested.fields = Fields.level relations record.fields := by
  induction relations generalizing record with
  | nil =>
    cases h
    rfl
  | cons relation rest ih =>
    obtain ⟨inner, hinner, hrest⟩ := Option.bind_eq_some_iff.1 h
    obtain ⟨value, hlookup, hvalue⟩ := Option.bind_eq_some_iff.1 hinner
    have hrelated : Fields.related relation record.fields = inner.fields := by
      cases value with
      | object className fields =>
        cases hvalue
        rw [Fields.related, show record.fields.lookup relation = _ from hlookup]
      | _ => cases hvalue
    rw [ih hrest, Fields.level, hrelated]

theorem follow?_concat (h : record.follow? relations = some nested) (relation : String) :
    record.follow? (relations ++ [relation]) =
      ((Fields.level relations record.fields).lookup relation).bind Value.asRecord? := by
  rw [follow?_append, h, Option.bind_some, ← fields_of_follow? h]
  change (nested.nested? relation).bind some = _
  rw [Option.bind_fun_some]
  rfl

theorem at?_eq_lookup {path : FieldPath} {leaf : String} (hleaf : path.leaf? = some leaf) (record : Record) :
    record.at? path = (Fields.level path.relations record.fields).lookup leaf := by
  rw [at?, hleaf, Option.bind_some]
  obtain ⟨className, fields⟩ := record
  induction path.relations generalizing className fields with
  | nil => rfl
  | cons relation rest ih => rw [read?_cons, ih, Fields.level]

variable {placed : List (FieldPath × Value)}

theorem exists_follow? (h : Fields.Filled placed record.fields)
    (hapart : ∀ entry ∈ placed, ∀ other ∈ placed, entry.1.segments <+: other.1.segments → entry.1 = other.1)
    {entry : FieldPath × Value} (hentry : entry ∈ placed) (hpasses : relations <+: entry.1.relations) :
    ∃ nested, record.follow? relations = some nested := by
  induction relations using List.reverseRecOn with
  | nil => exact ⟨record, rfl⟩
  | append_singleton relations relation ih =>
    obtain ⟨outer, houter⟩ := ih ((List.prefix_append _ _).trans hpasses)
    have hway : relations ++ [relation] <+: entry.1.segments := hpasses.trans (List.dropLast_prefix _)
    obtain ⟨found, hfound⟩ := h.exists_lookup hentry hway
    rw [follow?_concat houter, hfound, Option.bind_some]
    cases h.stands _ _ _ hfound with
    | relation inner _ _ => exact ⟨_, rfl⟩
    | column hscalar hmem =>
      -- a value here would be at the end of a path that the other one starts with
      rw [← hapart _ hmem entry hentry hway] at hpasses
      exact absurd hpasses (FieldPath.not_prefix_relations relations relation)

/-- Relations lead to a record only if a column comes by. -/
theorem passes_of_follow? (h : Fields.Left placed record.fields) {relation : String}
    (hfollow : record.follow? (relations ++ [relation]) = some nested) :
    nested.className = relation ∧ ∃ entry ∈ placed, relations ++ [relation] <+: entry.1.relations := by
  obtain ⟨outer, houter, -⟩ := Option.bind_eq_some_iff.1 (follow?_append relations [relation] record ▸ hfollow)
  rw [follow?_concat houter] at hfollow
  obtain ⟨value, hlookup, hvalue⟩ := Option.bind_eq_some_iff.1 hfollow
  cases h.stands _ _ _ hlookup with
  | relation inner hmem hpasses =>
    cases hvalue
    exact ⟨rfl, _, hmem, hpasses⟩
  | column hscalar _ =>
    rw [Value.asRecord?_of_isScalar hscalar] at hvalue
    cases hvalue

/-- A value that is found was placed. -/
theorem mem_of_at? (h : Fields.Filled placed record.fields) {path : FieldPath} {value : Value}
    (hfound : record.at? path = some value) (hscalar : value.asRecord? = none) : (path, value) ∈ placed := by
  obtain ⟨leaf, hleaf, -⟩ := Option.bind_eq_some_iff.1 hfound
  rw [at?_eq_lookup hleaf] at hfound
  cases h.stands _ _ _ hfound with
  | relation inner _ _ => cases hscalar
  | column _ hmem => rwa [← FieldPath.segments_eq hleaf] at hmem

end Record

/-! ### Rows -/

namespace Registry

variable {registry : Registry} {target owner last : ClassType} {projection : List FieldPath} {row : Row} {record : Record}

theorem reach?_append (registry : Registry) (owner : ClassType) (relations others : List String) :
    registry.reach? owner (relations ++ others) = (registry.reach? owner relations).bind (registry.reach? · others) := by
  induction relations generalizing owner with
  | nil => rfl
  | cons relation rest ih =>
    rw [List.cons_append, reach?, reach?, Option.bind_assoc]
    congr 1
    funext target
    exact ih target

theorem lookup?_of_reach? {relations : List String} {relation : String}
    (h : registry.reach? owner (relations ++ [relation]) = some last) : registry.lookup? relation = some last := by
  rw [reach?_append] at h
  obtain ⟨middle, -, hlast⟩ := Option.bind_eq_some_iff.1 h
  rw [reach?] at hlast
  obtain ⟨found, hfound, hlast⟩ := Option.bind_eq_some_iff.1 hlast
  cases hlast
  exact hfound

theorem exists_reach?_of_prefix {relations others : List String} (h : registry.reach? owner others = some last)
    (hstarts : relations <+: others) : ∃ middle, registry.reach? owner relations = some middle := by
  obtain ⟨rest, rfl⟩ := hstarts
  rw [reach?_append] at h
  obtain ⟨middle, hmiddle, -⟩ := Option.bind_eq_some_iff.1 h
  exact ⟨middle, hmiddle⟩

theorem Reached.exists_reach? (h : registry.Reached target projection) {path : FieldPath} (hpath : path ∈ projection)
    {relations : List String} (hpasses : relations <+: path.relations) :
    ∃ owner, registry.reach? target relations = some owner := by
  obtain ⟨leaf, last, -, hlast⟩ := h path hpath
  exact exists_reach?_of_prefix hlast hpasses

/-- The record at the end of relations is of the class that they lead to, also if columns were placed over each other. -/
theorem class_of_follow? {values : List Value} (hleft : Fields.Left (projection.zip values) record.fields)
    (hreached : registry.Reached target projection) (hclass : record.className = target.name) {relations : List String}
    {nested : Record} (hnested : record.follow? relations = some nested) :
    ∃ owner, registry.reach? target relations = some owner ∧ nested.className = owner.name := by
  rcases List.eq_nil_or_concat relations with rfl | ⟨outer, relation, rfl⟩
  · cases hnested
    exact ⟨target, rfl, hclass⟩
  · rw [List.concat_eq_append] at hnested ⊢
    obtain ⟨hname, entry, hentry, hpasses⟩ := Record.passes_of_follow? hleft hnested
    obtain ⟨owner, howner⟩ := hreached.exists_reach? (List.of_mem_zip hentry).1 hpasses
    exact ⟨owner, howner, hname.trans (name_of_lookup? (lookup?_of_reach? howner)).symm⟩

/-- The column stands in the record that its relations lead to, converted to the kind that the class of that record declares. -/
def Converts (registry : Registry) (target : ClassType) (record : Record) (column : FieldPath × Cell) (value : Value) :
    Prop :=
  ∃ leaf owner holder, column.1.leaf? = some leaf ∧ registry.reach? target column.1.relations = some owner ∧
    record.follow? column.1.relations = some holder ∧ holder.className = owner.name ∧ holder.get? leaf = some value ∧
    column.2.convert (owner.fieldType? leaf) column.1.display = .ok value

/-- The record is the tree of the row. There is a related record for each beginning of the relations of a path and none besides, and it is of the class that is registered under the last of them. The values in the tree are those of the columns, each at the end of its path. The fields of every record are in the order in which the paths first go through them. -/
structure Builds (registry : Registry) (target : ClassType) (projection : List FieldPath) (row : Row) (record : Record) :
    Prop where
  className : record.className = target.name
  width : row.length = projection.length
  related : ∀ relations, (∃ nested, record.follow? relations = some nested) ↔
    relations = [] ∨ relations ∈ projection.flatMap FieldPath.stages
  classes : ∀ relations relation nested, record.follow? (relations ++ [relation]) = some nested →
    ∃ c, registry.lookup? relation = some c ∧ nested.className = c.name
  order : ∀ relations nested, record.follow? relations = some nested →
    nested.names = (projection.filterMap (FieldPath.next? relations)).eraseDups
  columns : ∃ values, List.Forall₂ (registry.Converts target record) (projection.zip row) values ∧
    ∀ path value, record.at? path = some value ∧ value.asRecord? = none ↔ (path, value) ∈ projection.zip values

theorem zip_values {cells : Row} (values : List Value) (hwidth : cells.length = projection.length) :
    projection.zip values = ((projection.zip cells).zip values).map fun entry => (entry.1.1, entry.2) := by
  conv_lhs => rw [← List.map_fst_zip hwidth.ge]
  rw [List.zip_map_left]
  rfl

/-- The values of a row at the ends of the paths, in a record that is filled with them. -/
structure FilledBy (registry : Registry) (target : ClassType) (projection : List FieldPath) (row : Row) (record : Record)
    (values : List Value) : Prop where
  length_eq : projection.length = values.length
  converts : List.Forall₂ (fun column value => registry.columnValue target column = .ok value) (projection.zip row) values
  filled : Fields.Filled (projection.zip values) record.fields
  at?_eq : ∀ entry ∈ projection.zip values, record.at? entry.1 = some entry.2

theorem isScalar_of_converts {values : List Value}
    (h : List.Forall₂ (fun column value => registry.columnValue target column = .ok value) (projection.zip row) values) :
    ∀ entry ∈ projection.zip values, entry.2.isScalar = true := by
  intro entry hentry
  obtain ⟨column, -, hconvert⟩ := exists_of_mem_forall₂ h (List.of_mem_zip hentry).2
  exact Cell.isScalar_of_convert hconvert

theorem Becomes.filledBy (h : registry.Becomes target projection row record) (hpaths : FieldPath.Compatible projection) :
    ∃ values, registry.FilledBy target projection row record values := by
  obtain ⟨values, hvalues, hfields⟩ := h.fields
  have hlength : projection.length = values.length := by
    rw [← hvalues.length_eq, List.length_zip, h.width, min_self]
  have hapart : ((projection.zip values).map Prod.fst).Pairwise FieldPath.Apart := by
    rw [List.map_fst_zip hlength.le]
    exact hpaths.distinct.pairwise_of_forall_ne fun path hpath other hother hne =>
      ⟨fun hstarts => hne (hpaths.apart path hpath other hother hstarts),
        fun hstarts => hne (hpaths.apart other hother path hpath hstarts).symm⟩
  have hleaf : ∀ entry ∈ projection.zip values, ∃ leaf, entry.1.leaf? = some leaf := fun entry hentry =>
    ⟨_, List.getLast?_eq_some_getLast (hpaths.nonempty entry.1 (List.of_mem_zip hentry).1)⟩
  refine ⟨values, hlength, hvalues, ?_, ?_⟩
  · rw [hfields]
    exact Fields.filled_putAll _ hapart hleaf (isScalar_of_converts hvalues)
  · have hall := Record.at?_putAll (List.pairwise_map.1 hapart) hleaf record.className []
    rwa [← hfields] at hall

namespace FilledBy

variable {values : List Value}

theorem paths_eq (h : registry.FilledBy target projection row record values) :
    (projection.zip values).map Prod.fst = projection :=
  List.map_fst_zip h.length_eq.le

theorem exists_follow? (h : registry.FilledBy target projection row record values) (hpaths : FieldPath.Compatible projection)
    {path : FieldPath} (hpath : path ∈ projection) {relations : List String} (hpasses : relations <+: path.relations) :
    ∃ nested, record.follow? relations = some nested := by
  rw [← h.paths_eq] at hpath
  obtain ⟨entry, hentry, rfl⟩ := List.mem_map.1 hpath
  exact Record.exists_follow? h.filled (fun entry hentry other hother =>
    hpaths.apart entry.1 (List.of_mem_zip hentry).1 other.1 (List.of_mem_zip hother).1) hentry hpasses

theorem follow?_isSome_iff (h : registry.FilledBy target projection row record values)
    (hpaths : FieldPath.Compatible projection) (relations : List String) :
    (∃ nested, record.follow? relations = some nested) ↔
      relations = [] ∨ relations ∈ projection.flatMap FieldPath.stages := by
  simp only [List.mem_flatMap, FieldPath.mem_stages]
  constructor
  · rintro ⟨nested, hnested⟩
    rcases List.eq_nil_or_concat relations with rfl | ⟨outer, relation, rfl⟩
    · exact .inl rfl
    · rw [List.concat_eq_append] at hnested ⊢
      obtain ⟨-, entry, hentry, hpasses⟩ := Record.passes_of_follow? h.filled.left hnested
      exact .inr ⟨entry.1, (List.of_mem_zip hentry).1, List.append_ne_nil_of_right_ne_nil _ (List.cons_ne_nil _ _), hpasses⟩
  · rintro (rfl | ⟨path, hpath, -, hpasses⟩)
    · exact ⟨record, rfl⟩
    · exact h.exists_follow? hpaths hpath hpasses

theorem order (h : registry.FilledBy target projection row record values) {relations : List String} {nested : Record}
    (hnested : record.follow? relations = some nested) :
    nested.names = (projection.filterMap (FieldPath.next? relations)).eraseDups := by
  rw [Record.names, Record.fields_of_follow? hnested, h.filled.names_eq, h.paths_eq]

theorem at?_iff (h : registry.FilledBy target projection row record values) (path : FieldPath) (value : Value) :
    record.at? path = some value ∧ value.asRecord? = none ↔ (path, value) ∈ projection.zip values := by
  constructor
  · rintro ⟨hfound, hscalar⟩
    exact Record.mem_of_at? h.filled hfound hscalar
  · intro hmem
    obtain ⟨column, -, hconvert⟩ := exists_of_mem_forall₂ h.converts (List.of_mem_zip hmem).2
    exact ⟨h.at?_eq _ hmem, Cell.asRecord?_of_convert hconvert⟩

/-- Every column is in the record that its relations lead to. -/
theorem columns (h : registry.FilledBy target projection row record values) (hpaths : FieldPath.Compatible projection)
    (hreached : registry.Reached target projection) (hwidth : row.length = projection.length)
    (hclass : record.className = target.name) :
    List.Forall₂ (registry.Converts target record) (projection.zip row) values := by
  refine List.forall₂_iff_zip.2 ⟨h.converts.length_eq, fun {column value} hentry => ?_⟩
  obtain ⟨path, cell⟩ := column
  have hvalue := (List.forall₂_iff_zip.1 h.converts).2 hentry
  have hpath : path ∈ projection := (List.of_mem_zip (List.of_mem_zip hentry).1).1
  have hplaced : (path, value) ∈ projection.zip values := by
    rw [zip_values values hwidth]
    exact List.mem_map.2 ⟨_, hentry, rfl⟩
  obtain ⟨leaf, owner, hleaf, hreach⟩ := hreached path hpath
  obtain ⟨holder, hholder⟩ := h.exists_follow? hpaths hpath (List.prefix_refl _)
  refine ⟨leaf, owner, holder, hleaf, hreach, hholder, ?_, ?_, ?_⟩
  · obtain ⟨owner', howner, hname⟩ := class_of_follow? h.filled.left hreached hclass hholder
    rw [hreach] at howner
    cases howner
    exact hname
  · have hfound := h.at?_eq _ hplaced
    rwa [Record.at?_eq_lookup hleaf, ← Record.fields_of_follow? hholder] at hfound
  · rwa [columnValue_eq hleaf hreach] at hvalue

end FilledBy

/-- A row that becomes a record becomes its tree, if one record has room for all paths. -/
theorem Becomes.builds (h : registry.Becomes target projection row record) (hpaths : FieldPath.Compatible projection)
    (hreached : registry.Reached target projection) : registry.Builds target projection row record := by
  obtain ⟨values, hfilled⟩ := h.filledBy hpaths
  refine ⟨h.className, h.width, hfilled.follow?_isSome_iff hpaths, fun relations relation nested hnested => ?_,
    fun _ _ => hfilled.order, values, hfilled.columns hpaths hreached h.width h.className, hfilled.at?_iff⟩
  obtain ⟨c, hc, hname⟩ := class_of_follow? hfilled.filled.left hreached h.className hnested
  exact ⟨c, lookup?_of_reach? hc, hname⟩

/-! ### Results -/

theorem exists_reach?_of_place {path : FieldPath} {leaf : String} {cell : Cell} {relations : List String}
    {fields placed : List (String × Value)} (h : registry.place path leaf cell owner relations fields = .ok placed) :
    ∃ last, registry.reach? owner relations = some last := by
  cases hreach : registry.reach? owner relations with
  | some last => exact ⟨last, rfl⟩
  | none =>
    obtain ⟨e, he⟩ := place_of_not_reach? hreach path leaf cell fields
    rw [he] at h
    cases h

theorem reached_of_placeColumns {index : Nat} {columns : List (FieldPath × Cell)} {fields placed : List (String × Value)}
    (h : registry.placeColumns target index columns fields = .ok placed) : registry.Reached target (columns.map Prod.fst) := by
  induction columns generalizing index fields with
  | nil => exact fun path hpath => absurd hpath List.not_mem_nil
  | cons column columns ih =>
    obtain ⟨path, cell⟩ := column
    rw [placeColumns] at h
    cases hleaf : path.leaf? with
    | none =>
      rw [hleaf] at h
      cases h
    | some leaf =>
      rw [hleaf] at h
      obtain ⟨middle, hplace, hrest⟩ := bind_eq_ok.1 h
      obtain ⟨last, hlast⟩ := exists_reach?_of_place hplace
      exact List.forall_mem_cons.2 ⟨⟨leaf, last, hleaf, hlast⟩, ih hrest⟩

theorem reached_of_materializeRow (h : registry.materializeRow target projection row = .ok record) :
    registry.Reached target projection := by
  rw [materializeRow] at h
  split at h
  · cases h
  · next hwidth =>
    obtain ⟨fields, hfields, -⟩ := bind_eq_ok.1 h
    have hreached := reached_of_placeColumns hfields
    rwa [List.map_fst_zip (not_not.1 hwidth).ge] at hreached

/-- Each row of a result becomes its tree, whatever the order of the paths and however their relations are mixed. -/
theorem materialize_builds {rows : List Row} {records : List Record} (hpaths : FieldPath.Compatible projection)
    (h : registry.materialize target projection rows = .ok records) :
    List.Forall₂ (registry.Builds target projection) rows records :=
  (forall₂_of_mapM h).imp fun _ _ hrow =>
    have hreached := reached_of_materializeRow hrow
    (materializeRow_eq_ok hreached hrow).2.builds hpaths hreached

end Registry

def ownerRegistry : Registry := ⟨[.bare "Contact", .bare "Account", .bare "Owner"]⟩

/-- Paths through three levels, mixed. -/
def ownerPaths : List FieldPath :=
  [⟨["Account", "Owner", "Name"]⟩, ⟨["LastName"]⟩, ⟨["Account", "Name"]⟩, ⟨["Account", "Owner", "City"]⟩]

def ownerRecord : Record :=
  ⟨"Contact", [("Account", .object "Account" [("Owner", .object "Owner" [("Name", .string "Eve"), ("City", .null)]),
    ("Name", .string "Acme")]), ("LastName", .string "Ito")]⟩

def ownerRow : Row := [.text "Eve", .text "Ito", .text "Acme", .null]

theorem ownerPaths_compatible : FieldPath.Compatible ownerPaths := ⟨by decide, by decide, by decide⟩

theorem materialize_ownerRow :
    ownerRegistry.materialize (.bare "Contact") ownerPaths [ownerRow] = .ok [ownerRecord] := rfl

theorem ownerRow_builds : FieldPath.Compatible ownerPaths ∧
    ownerRegistry.materialize (.bare "Contact") ownerPaths [ownerRow] = .ok [ownerRecord] ∧
    List.Forall₂ (ownerRegistry.Builds (.bare "Contact") ownerPaths) [ownerRow] [ownerRecord] :=
  ⟨ownerPaths_compatible, materialize_ownerRow, Registry.materialize_builds ownerPaths_compatible materialize_ownerRow⟩

end ObjectStore
