import ObjectStore.Proofs.Query.Placement

/-!
# Levels of a tree

The fields of a record and of its related records are the levels of a tree. Placing a column sets one field of every level that its relations pass through, and leaves every other level as it is. So what stands in a field of a level, and in which order the fields of a level came, follows from the paths alone by induction over the columns.
-/

namespace ObjectStore

namespace FieldPath

/-- The segment of a path that comes after some relations, if the path starts with them. -/
def next? (relations : List String) (path : FieldPath) : Option String :=
  (path.segments.dropPrefix? relations).bind List.head?

variable {relations : List String} {path : FieldPath} {name : String}

theorem next?_eq_some_iff : path.next? relations = some name ↔ relations ++ [name] <+: path.segments := by
  simp only [next?, Option.bind_eq_some_iff, List.dropPrefix?_eq_some_iff, beq_iff_eq, List.head?_eq_some_iff]
  constructor
  · rintro ⟨_, ⟨_, hsegments, rfl⟩, rest, rfl⟩
    exact ⟨rest, by rw [hsegments, List.append_assoc, List.singleton_append]⟩
  · rintro ⟨rest, hsegments⟩
    exact ⟨name :: rest, ⟨relations, by rw [← hsegments, List.append_assoc, List.singleton_append], rfl⟩, rest, rfl⟩

theorem next?_eq_none {leaf : String} (hleaf : path.leaf? = some leaf) (h : ¬ relations <+: path.relations) :
    path.next? relations = none := by
  rw [Option.eq_none_iff_forall_ne_some]
  intro name hnext
  rw [next?_eq_some_iff, segments_eq hleaf, List.prefix_concat_iff] at hnext
  rcases hnext with heq | hstarts
  · exact h ((List.append_inj' heq rfl).1 ▸ List.prefix_refl _)
  · exact h ((List.prefix_append _ _).trans hstarts)

theorem not_prefix_relations (relations : List String) (name : String) :
    ¬ relations ++ [name] <+: (⟨relations ++ [name]⟩ : FieldPath).relations := by
  intro hstarts
  have hlength := hstarts.length_le
  rw [FieldPath.relations, List.dropLast_concat] at hlength
  simp at hlength

end FieldPath

/-! ### Levels -/

namespace Fields

/-- The fields of the record at the end of relations, and none if no record is there. -/
def level : List String → List (String × Value) → List (String × Value)
  | [], fields => fields
  | relation :: rest, fields => level rest (related relation fields)

variable {relations others below : List String} {leaf name : String} {value : Value} {fields : List (String × Value)}

theorem level_append (relations others : List String) (fields : List (String × Value)) :
    level (relations ++ others) fields = level others (level relations fields) := by
  induction relations generalizing fields with
  | nil => rfl
  | cons relation rest ih => exact ih _

theorem level_empty (relations : List String) : level relations [] = [] := by
  induction relations with
  | nil => rfl
  | cons relation rest ih => exact ih

/-- On a level that the relations pass through, the value is placed at the end of the relations that are left. -/
theorem level_put_of_passed (relations below : List String) (leaf : String) (value : Value) (fields : List (String × Value)) :
    level relations (put (relations ++ below) leaf value fields) = put below leaf value (level relations fields) := by
  induction relations generalizing fields with
  | nil => rfl
  | cons relation rest ih => rw [List.cons_append, put, level, related_set_self, ih, level]

theorem level_put_of_behind (hvalue : value.asRecord? = none) (relations below : List String) (leaf : String)
    (fields : List (String × Value)) : level (relations ++ leaf :: below) (put relations leaf value fields) = [] := by
  have hpassed := level_put_of_passed relations [] leaf value fields
  rw [List.append_nil] at hpassed
  have hrelated : related leaf (set leaf value (level relations fields)) = [] := by
    rw [related, lookup_set_self]
    cases value with
    | object className inner => cases hvalue
    | _ => rfl
  rw [level_append, hpassed, put, level, hrelated, level_empty]

theorem level_put_of_apart (hpassed : ¬ others <+: relations) (hbehind : ¬ relations ++ [leaf] <+: others) (value : Value)
    (fields : List (String × Value)) : level others (put relations leaf value fields) = level others fields := by
  induction relations generalizing others fields with
  | nil =>
    cases others with
    | nil => exact absurd (List.prefix_refl _) hpassed
    | cons first others =>
      have hne : first ≠ leaf := fun heq => hbehind (heq ▸ List.prefix_append [first] others)
      rw [put, level, related_set_of_ne hne, level]
  | cons relation rest ih =>
    cases others with
    | nil => exact absurd List.nil_prefix hpassed
    | cons first others =>
      rw [put, level]
      by_cases heq : first = relation
      · subst heq
        rw [List.cons_append, List.cons_prefix_cons, and_iff_right rfl] at hbehind
        rw [List.cons_prefix_cons, and_iff_right rfl] at hpassed
        rw [related_set_self, ih hpassed hbehind, level]
      · rw [related_set_of_ne heq, level]

/-- The three ways in which a level can lie to a path. -/
theorem level_cases (relations others : List String) (leaf : String) :
    (∃ below, relations = others ++ below) ∨ (∃ below, others = relations ++ leaf :: below) ∨
      (¬ others <+: relations ∧ ¬ relations ++ [leaf] <+: others) := by
  by_cases hpassed : others <+: relations
  · obtain ⟨below, hbelow⟩ := hpassed
    exact .inl ⟨below, hbelow.symm⟩
  · by_cases hbehind : relations ++ [leaf] <+: others
    · obtain ⟨below, hbelow⟩ := hbehind
      exact .inr (.inl ⟨below, by rw [← hbelow, List.append_assoc, List.singleton_append]⟩)
    · exact .inr (.inr ⟨hpassed, hbehind⟩)

/-! ### What columns leave -/

/-- What stands in a field of a level after columns were placed: the value of the column whose path ends there, or a record of the class of that name on the way of some column. -/
inductive Stands (placed : List (FieldPath × Value)) (relations : List String) (name : String) : Value → Prop where
  | column {value : Value} (hscalar : value.isScalar = true) (h : (⟨relations ++ [name]⟩, value) ∈ placed) :
      Stands placed relations name value
  | relation {entry : FieldPath × Value} (inner : List (String × Value)) (h : entry ∈ placed)
      (hpasses : relations ++ [name] <+: entry.1.relations) : Stands placed relations name (.object name inner)

theorem Stands.mono {placed more : List (FieldPath × Value)} (h : Stands placed relations name value)
    (hsubset : placed ⊆ more) : Stands more relations name value := by
  cases h with
  | column hscalar hmem => exact .column hscalar (hsubset hmem)
  | relation inner hmem hpasses => exact .relation inner (hsubset hmem) hpasses

/-- Every level has distinct fields, and whatever is in one of them was left there by a column. This holds of any columns, also of those that are written over each other. -/
structure Left (placed : List (FieldPath × Value)) (fields : List (String × Value)) : Prop where
  nodup : ∀ relations, (names (level relations fields)).Nodup
  stands : ∀ relations name value, (level relations fields).lookup name = some value → Stands placed relations name value

theorem left_nil : Left [] [] where
  nodup relations := by
    rw [level_empty]
    exact List.nodup_nil
  stands relations name value h := by
    rw [level_empty] at h
    cases h

variable {placed : List (FieldPath × Value)} {path : FieldPath}

/-- On every level that the new path passes, the field that it goes through is set. -/
theorem put_eq_set (below : List String) (leaf : String) (value : Value) (fields : List (String × Value)) :
    ∃ name content, (below ++ [leaf]).head? = some name ∧ put below leaf value fields = set name content fields ∧
      (below = [] ∧ content = value ∨ ∃ inner, [name] <+: below ∧ content = .object name inner) := by
  cases below with
  | nil => exact ⟨leaf, value, rfl, rfl, .inl ⟨rfl, rfl⟩⟩
  | cons relation rest => exact ⟨relation, _, rfl, rfl, .inr ⟨_, ⟨rest, rfl⟩, rfl⟩⟩

theorem Left.nodup_put (h : Left placed fields) (relations : List String) (leaf : String) (hvalue : value.isScalar = true)
    (others : List String) : (names (level others (put relations leaf value fields))).Nodup := by
  rcases level_cases relations others leaf with ⟨below, rfl⟩ | ⟨below, rfl⟩ | ⟨hpassed, hbehind⟩
  · obtain ⟨name, content, -, hput, -⟩ := put_eq_set below leaf value (level others fields)
    rw [level_put_of_passed, hput]
    exact nodup_set name content (h.nodup others)
  · rw [level_put_of_behind (Value.asRecord?_of_isScalar hvalue)]
    exact List.nodup_nil
  · rw [level_put_of_apart hpassed hbehind]
    exact h.nodup others

theorem Left.stands_put (h : Left placed fields) (hleaf : path.leaf? = some leaf) (hvalue : value.isScalar = true)
    {relations : List String} {name : String} {found : Value}
    (hfound : (level relations (Fields.put path.relations leaf value fields)).lookup name = some found) :
    Stands (placed ++ [(path, value)]) relations name found := by
  have hsegments := FieldPath.segments_eq hleaf
  have hkept : (level relations fields).lookup name = some found → Stands (placed ++ [(path, value)]) relations name found :=
    fun hlookup => (h.stands relations name found hlookup).mono (List.subset_append_left _ _)
  rcases level_cases path.relations relations leaf with ⟨below, hbelow⟩ | ⟨below, rfl⟩ | ⟨hpassed, hbehind⟩
  · obtain ⟨first, content, hhead, hput, hset⟩ := put_eq_set below leaf value (level relations fields)
    rw [hbelow, level_put_of_passed, hput] at hfound
    by_cases hname : name = first
    · subst hname
      rw [lookup_set_self, Option.some.injEq] at hfound
      subst hfound
      have hmem : (path, value) ∈ placed ++ [(path, value)] := List.mem_append_right _ List.mem_cons_self
      rcases hset with ⟨rfl, rfl⟩ | ⟨inner, hpasses, rfl⟩
      · cases hhead
        rw [List.append_nil] at hbelow
        rw [hbelow] at hsegments
        refine .column hvalue ?_
        rwa [← hsegments]
      · refine .relation inner hmem ?_
        rw [hbelow]
        exact (List.prefix_append_right_inj _).2 hpasses
    · rw [lookup_set_of_ne hname] at hfound
      exact hkept hfound
  · rw [level_put_of_behind (Value.asRecord?_of_isScalar hvalue)] at hfound
    cases hfound
  · rw [level_put_of_apart hpassed hbehind] at hfound
    exact hkept hfound

theorem Left.put (h : Left placed fields) (hleaf : path.leaf? = some leaf) (hvalue : value.isScalar = true) :
    Left (placed ++ [(path, value)]) (Fields.put path.relations leaf value fields) where
  nodup relations := h.nodup_put path.relations leaf hvalue relations
  stands _ _ _ hfound := h.stands_put hleaf hvalue hfound

/-- The fields hold the columns and nothing else, and the names of every level are in the order in which the paths came. -/
structure Filled (placed : List (FieldPath × Value)) (fields : List (String × Value)) : Prop where
  names_eq : ∀ relations,
    names (level relations fields) = ((placed.map Prod.fst).filterMap (FieldPath.next? relations)).eraseDups
  stands : ∀ relations name value, (level relations fields).lookup name = some value → Stands placed relations name value

theorem filled_nil : Filled [] [] where
  names_eq relations := by
    rw [level_empty]
    rfl
  stands := left_nil.stands

theorem Filled.left (h : Filled placed fields) : Left placed fields where
  nodup relations := h.names_eq relations ▸ nodup_eraseDups _
  stands := h.stands

theorem Filled.names_put (h : Filled placed fields) (hleaf : path.leaf? = some leaf) (hvalue : value.asRecord? = none)
    (hapart : ∀ entry ∈ placed, entry.1.Apart path) (relations : List String) :
    names (level relations (Fields.put path.relations leaf value fields)) =
      ((placed.map Prod.fst ++ [path]).filterMap (FieldPath.next? relations)).eraseDups := by
  have hsegments := FieldPath.segments_eq hleaf
  rw [List.filterMap_append]
  rcases level_cases path.relations relations leaf with ⟨below, hbelow⟩ | ⟨below, rfl⟩ | ⟨hpassed, hbehind⟩
  · obtain ⟨name, content, hhead, hput, -⟩ := put_eq_set below leaf value (level relations fields)
    obtain ⟨rest, hrest⟩ := List.head?_eq_some_iff.1 hhead
    have hnext : path.next? relations = some name :=
      FieldPath.next?_eq_some_iff.2 ⟨rest, by rw [hsegments, hbelow, List.append_assoc, List.append_assoc, hrest]; rfl⟩
    rw [hbelow, level_put_of_passed, hput, names_set, h.names_eq, List.filterMap_cons_some hnext, List.filterMap_nil,
      eraseDups_concat]
    simp only [List.mem_eraseDups]
  · -- what starts with the levels behind the new path would start with the new path
    have hplaced : (placed.map Prod.fst).filterMap (FieldPath.next? (path.relations ++ leaf :: below)) = [] := by
      rw [List.filterMap_eq_nil_iff]
      intro other hother
      obtain ⟨entry, hentry, rfl⟩ := List.mem_map.1 hother
      rw [Option.eq_none_iff_forall_ne_some]
      intro name hnext
      rw [FieldPath.next?_eq_some_iff] at hnext
      exact (hapart entry hentry).2 (List.IsPrefix.trans (by simp [hsegments]) hnext)
    have hnone : path.next? (path.relations ++ leaf :: below) = none := by
      refine FieldPath.next?_eq_none hleaf fun hstarts => ?_
      have hlength := hstarts.length_le
      simp at hlength
    rw [level_put_of_behind hvalue, hplaced, List.filterMap_cons_none hnone]
    rfl
  · rw [level_put_of_apart hpassed hbehind, h.names_eq, List.filterMap_cons_none (FieldPath.next?_eq_none hleaf hpassed),
      List.filterMap_nil, List.append_nil]

theorem Filled.put (h : Filled placed fields) (hleaf : path.leaf? = some leaf) (hvalue : value.isScalar = true)
    (hapart : ∀ entry ∈ placed, entry.1.Apart path) :
    Filled (placed ++ [(path, value)]) (Fields.put path.relations leaf value fields) where
  names_eq relations := by
    rw [List.map_append]
    exact h.names_put hleaf (Value.asRecord?_of_isScalar hvalue) hapart relations
  stands := (h.left.put hleaf hvalue).stands

theorem putAll_append (before after : List (FieldPath × Value)) (fields : List (String × Value)) :
    putAll (before ++ after) fields = putAll after (putAll before fields) := by
  induction before generalizing fields with
  | nil => rfl
  | cons entry before ih =>
    rw [List.cons_append, putAll, putAll]
    split
    · exact ih _
    · exact ih _

theorem left_putAll (placed : List (FieldPath × Value)) (hleaf : ∀ entry ∈ placed, ∃ leaf, entry.1.leaf? = some leaf)
    (hscalar : ∀ entry ∈ placed, entry.2.isScalar = true) : Left placed (putAll placed []) := by
  induction placed using List.reverseRecOn with
  | nil => exact left_nil
  | append_singleton placed entry ih =>
    obtain ⟨path, value⟩ := entry
    obtain ⟨hleafs, hlast⟩ := List.forall_mem_append.1 hleaf
    obtain ⟨hscalars, hvalue⟩ := List.forall_mem_append.1 hscalar
    obtain ⟨leaf, hpath⟩ := hlast (path, value) List.mem_cons_self
    have hput := (ih hleafs hscalars).put hpath (hvalue (path, value) List.mem_cons_self)
    rw [putAll_append, putAll, hpath]
    exact hput

theorem filled_putAll (placed : List (FieldPath × Value)) (hpaths : (placed.map Prod.fst).Pairwise FieldPath.Apart)
    (hleaf : ∀ entry ∈ placed, ∃ leaf, entry.1.leaf? = some leaf) (hscalar : ∀ entry ∈ placed, entry.2.isScalar = true) :
    Filled placed (putAll placed []) := by
  induction placed using List.reverseRecOn with
  | nil => exact filled_nil
  | append_singleton placed entry ih =>
    obtain ⟨path, value⟩ := entry
    rw [List.map_append, List.pairwise_append] at hpaths
    obtain ⟨hplaced, -, hapart⟩ := hpaths
    obtain ⟨hleafs, hlast⟩ := List.forall_mem_append.1 hleaf
    obtain ⟨hscalars, hvalue⟩ := List.forall_mem_append.1 hscalar
    obtain ⟨leaf, hpath⟩ := hlast (path, value) List.mem_cons_self
    have hput := (ih hplaced hleafs hscalars).put hpath (hvalue (path, value) List.mem_cons_self) fun entry hentry =>
      hapart entry.1 (List.mem_map_of_mem hentry) path List.mem_cons_self
    rw [putAll_append, putAll, hpath]
    exact hput

theorem Filled.exists_lookup (h : Filled placed fields) {entry : FieldPath × Value} (hentry : entry ∈ placed)
    (hnext : relations ++ [name] <+: entry.1.segments) : ∃ found, (level relations fields).lookup name = some found := by
  rw [← mem_names_iff, h.names_eq, List.mem_eraseDups, List.mem_filterMap]
  exact ⟨entry.1, List.mem_map_of_mem hentry, FieldPath.next?_eq_some_iff.2 hnext⟩

end Fields

end ObjectStore
