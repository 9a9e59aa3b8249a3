import ObjectStore.Query.FieldPath

/-!
# Paths and their texts

Splitting a text at its dots and joining the pieces with dots undo each other, as long as there is a piece. So every text is the text of the path that it is read as. The paths that texts are read as are those whose segments have no dots, all but the path of one empty segment: its text is empty, as is the text of the path without segments. Among these paths each is known by its text.
-/

namespace ObjectStore.FieldPath

variable {path other : FieldPath}

/-! ### Pieces between dots -/

theorem splitDots_eq_splitOn (cs : List Char) : splitDots cs = cs.splitOn '.' := by
  induction cs with
  | nil => rfl
  | cons c cs ih =>
    obtain ⟨piece, pieces, hpieces⟩ := List.exists_cons_of_ne_nil (List.splitOn_ne_nil '.' cs)
    rw [splitDots, ih, List.splitOn_cons_eq_if_modifyHead, hpieces, List.modifyHead_cons]
    simp only [beq_iff_eq]

theorem dot_not_mem_of_mem_splitDots {cs piece : List Char} (h : piece ∈ splitDots cs) : '.' ∉ piece := by
  induction cs generalizing piece with
  | nil =>
    rw [splitDots, List.mem_singleton] at h
    rw [h]
    exact List.not_mem_nil
  | cons c cs ih =>
    rw [splitDots_eq_splitOn] at ih
    obtain ⟨first, rest, hpieces⟩ := List.exists_cons_of_ne_nil (List.splitOn_ne_nil '.' cs)
    rw [splitDots, splitDots_eq_splitOn, hpieces] at h
    rw [hpieces] at ih
    by_cases hdot : c = '.'
    · rw [if_pos hdot] at h
      rcases List.mem_cons.1 h with rfl | h
      · exact List.not_mem_nil
      · exact ih h
    · rw [if_neg hdot] at h
      rcases List.mem_cons.1 h with rfl | h
      · rw [List.mem_cons, not_or]
        exact ⟨Ne.symm hdot, ih List.mem_cons_self⟩
      · exact ih (List.mem_cons_of_mem first h)

/-! ### Paths and texts -/

/-- The paths that texts are read as. -/
structure Readable (path : FieldPath) : Prop where
  dotless : ∀ segment ∈ path.segments, '.' ∉ segment.toList
  ne_blank : path.segments ≠ [""]

theorem toList_display (path : FieldPath) : path.display.toList = ['.'].intercalate (path.segments.map String.toList) := by
  rw [display, String.toList_intercalate]
  rfl

theorem map_toList_parse {text : String} (h : text.toList ≠ []) :
    (parse text).segments.map String.toList = splitDots text.toList := by
  have hsegments : (parse text).segments = (splitDots text.toList).map String.ofList := by
    rw [parse]
    split
    · next hnil => exact absurd hnil h
    · next cs hcons => rfl
  have hundone : String.toList ∘ String.ofList = id := funext fun _ => String.toList_ofList
  rw [hsegments, List.map_map, hundone, List.map_id]

theorem display_parse (text : String) : (parse text).display = text := by
  by_cases hnil : text.toList = []
  · rw [String.toList_eq_nil_iff] at hnil
    rw [hnil]
    rfl
  · rw [← String.toList_inj, toList_display, map_toList_parse hnil, splitDots_eq_splitOn, List.intercalate_splitOn]

theorem readable_parse (text : String) : (parse text).Readable where
  dotless segment hsegment := by
    by_cases hnil : text.toList = []
    · rw [String.toList_eq_nil_iff] at hnil
      rw [hnil] at hsegment
      cases hsegment
    · have hpiece : segment.toList ∈ splitDots text.toList := by
        rw [← map_toList_parse hnil]
        exact List.mem_map_of_mem hsegment
      exact dot_not_mem_of_mem_splitDots hpiece
  ne_blank hblank := by
    have htext : text = "" := by rw [← display_parse text, display, hblank, String.intercalate_singleton]
    rw [htext] at hblank
    cases hblank

theorem splitDots_display (h : path.Readable) (hsegments : path.segments ≠ []) :
    splitDots path.display.toList = path.segments.map String.toList := by
  rw [splitDots_eq_splitOn, toList_display]
  refine List.splitOn_intercalate '.' (List.forall_mem_map.2 h.dotless) ?_
  rwa [Ne, List.map_eq_nil_iff]

/-- Of the paths that can be read, only the one without segments has an empty text. -/
theorem display_ne_nil (h : path.Readable) (hsegments : path.segments ≠ []) : path.display.toList ≠ [] := by
  intro hnil
  have hblank := splitDots_display h hsegments
  rw [hnil, splitDots] at hblank
  obtain ⟨segment, hsegment, hempty⟩ := List.map_eq_singleton_iff.1 hblank.symm
  rw [String.toList_eq_nil_iff] at hempty
  rw [hempty] at hsegment
  exact h.ne_blank hsegment

theorem parse_display (h : path.Readable) : parse path.display = path := by
  by_cases hnone : path.segments = []
  · cases path
    cases hnone
    rfl
  · have hlists : (parse path.display).segments.map String.toList = path.segments.map String.toList := by
      rw [map_toList_parse (display_ne_nil h hnone), splitDots_display h hnone]
    have hsegments : (parse path.display).segments = path.segments :=
      (List.map_inj_right fun _ _ => String.toList_inj.1).1 hlists
    cases path
    exact congrArg FieldPath.mk hsegments

theorem parse_display_iff : parse path.display = path ↔ path.Readable :=
  ⟨fun hparse => hparse ▸ readable_parse path.display, parse_display⟩

theorem eq_of_display_eq (h : path.Readable) (hother : other.Readable) (hdisplay : path.display = other.display) :
    path = other := by
  rw [← parse_display h, hdisplay, parse_display hother]

/-! ### Relations and leaf -/

theorem segments_eq {leaf : String} (h : path.leaf? = some leaf) : path.segments = path.relations ++ [leaf] := by
  obtain ⟨before, hsegments⟩ := List.getLast?_eq_some_iff.1 h
  rw [relations, hsegments, List.dropLast_concat]

theorem exists_leaf (h : path.segments ≠ []) : ∃ leaf, path.leaf? = some leaf ∧ path.segments = path.relations ++ [leaf] :=
  ⟨_, List.getLast?_eq_some_getLast h, segments_eq (List.getLast?_eq_some_getLast h)⟩

theorem isRelationship_iff (path : FieldPath) : path.isRelationship = true ↔ path.relations ≠ [] := by
  rw [isRelationship, decide_eq_true_eq, relations, Ne, ← List.length_eq_zero_iff, List.length_dropLast]
  omega

/-- Every text is the text of the path that it is read as. A path is what its text is read as exactly if its segments have no dots and it is not the one empty segment, so that two such paths with the same text are the same path. The segments of a path, if it has any, are its relations and then its leaf, and it leaves its record exactly if there are relations. -/
theorem texts_and_segments_agree (text : String) (path other : FieldPath) :
    (parse text).display = text ∧
    (parse path.display = path ↔ (∀ segment ∈ path.segments, '.' ∉ segment.toList) ∧ path.segments ≠ [""]) ∧
    (path.Readable → other.Readable → path.display = other.display → path = other) ∧
    (path.segments ≠ [] → ∃ leaf, path.leaf? = some leaf ∧ path.segments = path.relations ++ [leaf]) ∧
    (path.isRelationship = true ↔ path.relations ≠ []) := by
  refine ⟨display_parse text, ?_, eq_of_display_eq, exists_leaf, path.isRelationship_iff⟩
  rw [parse_display_iff]
  exact ⟨fun h => ⟨h.dotless, h.ne_blank⟩, fun h => ⟨h.1, h.2⟩⟩

/-- A path with an empty relation in the middle. -/
def unnamedRelation : FieldPath := ⟨["Account", "", "Name"]⟩

theorem unnamedRelation_agrees :
    unnamedRelation.Readable ∧ parse "Account..Name" = unnamedRelation ∧ (parse "Account..Name").display = "Account..Name" ∧
    ∃ leaf, unnamedRelation.leaf? = some leaf ∧ unnamedRelation.segments = unnamedRelation.relations ++ [leaf] := by
  have hreadable : unnamedRelation.Readable := ⟨by decide, by decide⟩
  have hdisplay : unnamedRelation.display = "Account..Name" := rfl
  obtain ⟨htext, -, hsame, hleaf, -⟩ := texts_and_segments_agree "Account..Name" unnamedRelation (parse "Account..Name")
  have hparse : unnamedRelation = parse "Account..Name" := hsame hreadable (readable_parse _) (by rw [htext, hdisplay])
  exact ⟨hreadable, hparse.symm, htext, hleaf (by decide)⟩

end ObjectStore.FieldPath
