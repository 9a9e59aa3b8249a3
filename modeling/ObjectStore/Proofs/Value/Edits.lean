import ObjectStore.Proofs.Dml.Requests
import ObjectStore.Proofs.Value.Equality
import ObjectStore.Value.Edit

/-!
# Records and their histories

What a record holds is known from the edits that made it. A field is there since it was set, unless it was removed later; its value is the one that the last edit of it stored; and the fields stand in the order of the edits by which they came about. Each of these is a `Since`: some edit of the history, and none after it that would undo what it did. One more edit changes the record as it changes what its history says, so by induction the two agree after any run.
-/

namespace ObjectStore

namespace Fields

variable {α : Type} {name : String} {present absent : Option α} {fields : List (String × α)}

/-! ### One visit to a field -/

theorem visit_fst (name : String) (present absent : Option α) (fields : List (String × α)) :
    (visit name present absent fields).1 = fields.lookup name := by
  induction fields with
  | nil => rfl
  | cons field fields ih =>
    obtain ⟨first, value⟩ := field
    rw [visit]
    by_cases hname : first = name
    · rw [if_pos hname, hname, List.lookup_cons_self]
    · rw [if_neg hname, List.lookup_cons, beq_false_of_ne (Ne.symm hname)]
      exact ih

theorem visit_set (name : String) (value : α) (fields : List (String × α)) :
    (visit name (some value) (some value) fields).2 = set name value fields := by
  induction fields with
  | nil => rfl
  | cons field fields ih =>
    obtain ⟨first, old⟩ := field
    rw [visit, set]
    by_cases hname : first = name
    · rw [if_pos hname, if_pos hname]
      rfl
    · rw [if_neg hname, if_neg hname, ← ih]

theorem visit_erase (name : String) (fields : List (String × α)) : (visit name none none fields).2 = erase name fields := by
  induction fields with
  | nil => rfl
  | cons field fields ih =>
    obtain ⟨first, old⟩ := field
    rw [visit, erase]
    by_cases hname : first = name
    · rw [if_pos hname, List.eraseP_cons_of_pos (by simpa using hname)]
      rfl
    · rw [if_neg hname, List.eraseP_cons_of_neg (by simpa using hname), ← erase, ← ih]

theorem visit_replace (name : String) (value : α) (fields : List (String × α)) :
    (visit name (some value) none fields).2 = if (fields.lookup name).isSome then set name value fields else fields := by
  induction fields with
  | nil => rfl
  | cons field fields ih =>
    obtain ⟨first, old⟩ := field
    rw [visit, set]
    by_cases hname : first = name
    · rw [if_pos hname, if_pos hname, hname, List.lookup_cons_self]
      rfl
    · rw [if_neg hname, if_neg hname, List.lookup_cons, beq_false_of_ne (Ne.symm hname)]
      change (first, old) :: (visit name (some value) none fields).2 = _
      rw [ih]
      split <;> rfl

theorem lookup_visit_of_ne {other : String} (h : other ≠ name) :
    (visit name present absent fields).2.lookup other = fields.lookup other := by
  induction fields with
  | nil =>
    cases absent with
    | none => rfl
    | some value =>
      change List.lookup other [(name, value)] = _
      rw [List.lookup_cons, beq_false_of_ne h]
  | cons field fields ih =>
    obtain ⟨first, value⟩ := field
    rw [visit]
    by_cases hname : first = name
    · subst hname
      rw [if_pos rfl, List.lookup_cons, beq_false_of_ne h]
      cases present with
      | none => rfl
      | some new =>
        change List.lookup other ((first, new) :: fields) = _
        rw [List.lookup_cons, beq_false_of_ne h]
    · rw [if_neg hname, List.lookup_cons, List.lookup_cons, ih]

theorem lookup_visit_self (hnodup : (names fields).Nodup) (name : String) (present absent : Option α) :
    (visit name present absent fields).2.lookup name = if name ∈ names fields then present else absent := by
  induction fields with
  | nil =>
    rw [if_neg (by exact List.not_mem_nil)]
    cases absent with
    | none => rfl
    | some value => exact List.lookup_cons_self
  | cons field fields ih =>
    obtain ⟨first, value⟩ := field
    have hnames : names ((first, value) :: fields) = first :: names fields := rfl
    rw [hnames, List.nodup_cons] at hnodup
    rw [visit, hnames]
    by_cases hname : first = name
    · subst hname
      rw [if_pos rfl, if_pos List.mem_cons_self]
      cases present with
      | none => exact lookup_eq_none_iff.2 hnodup.1
      | some new => exact List.lookup_cons_self
    · have hmem : name ∈ first :: names fields ↔ name ∈ names fields := by
        rw [List.mem_cons, or_iff_right (Ne.symm hname)]
      rw [if_neg hname, List.lookup_cons, beq_false_of_ne (Ne.symm hname)]
      simp only [hmem]
      exact ih hnodup.2

theorem names_visit (name : String) (present absent : Option α) (fields : List (String × α)) :
    names (visit name present absent fields).2 =
      if name ∈ names fields then if present.isSome then names fields else (names fields).erase name
      else names fields ++ (absent.map fun _ => name).toList := by
  induction fields with
  | nil => cases absent <;> rfl
  | cons field fields ih =>
    obtain ⟨first, value⟩ := field
    have hnames : names ((first, value) :: fields) = first :: names fields := rfl
    rw [visit, hnames]
    by_cases hname : first = name
    · rw [if_pos hname, if_pos (hname ▸ List.mem_cons_self), ← hname, List.erase_cons_head]
      cases present <;> rfl
    · have hmem : name ∈ first :: names fields ↔ name ∈ names fields := by
        rw [List.mem_cons, or_iff_right (Ne.symm hname)]
      rw [if_neg hname, List.erase_cons_tail (by simpa using hname)]
      simp only [hmem]
      change first :: names (visit name present absent fields).2 = _
      rw [ih]
      split
      · split <;> rfl
      · rfl

theorem filter_visit {others : String → Bool} (h : others name = false) :
    ((visit name present absent fields).2.filter fun field => others field.1) = fields.filter fun field => others field.1 := by
  induction fields with
  | nil => cases absent <;> simp [visit, h]
  | cons field fields ih =>
    obtain ⟨first, value⟩ := field
    rw [visit]
    by_cases hname : first = name
    · subst hname
      rw [if_pos rfl]
      cases present <;> simp [h]
    · rw [if_neg hname, List.filter_cons, List.filter_cons, ih]

end Fields

namespace Record

/-- An edit tells what the field held, and does what setting, removing and replacing do. -/
theorem edit_eq (record : Record) (field : String) (value : Value) :
    record.edit (.set field value) = (record.get? field, record.set field value) ∧
    record.edit (.remove field) = (record.get? field, record.erase field) ∧
    record.edit (.replace field value) = (record.get? field, record.replace field value) := by
  refine ⟨Prod.ext (Fields.visit_fst ..) ?_, Prod.ext (Fields.visit_fst ..) ?_, Prod.ext (Fields.visit_fst ..) ?_⟩
  · exact congrArg (Record.mk record.className) (Fields.visit_set ..)
  · exact congrArg (Record.mk record.className) (Fields.visit_erase ..)
  · change Record.mk record.className (Fields.visit field (some value) none record.fields).2 = record.replace field value
    rw [Fields.visit_replace, replace, get?]
    split <;> rfl

theorem editAll_concat (record : Record) (edits : List Edit) (edit : Edit) :
    record.editAll (edits ++ [edit]) = ((record.editAll edits).edit edit).2 := by
  exact List.foldl_concat ..

theorem className_editAll (record : Record) (edits : List Edit) : (record.editAll edits).className = record.className := by
  induction edits using List.reverseRecOn with
  | nil => rfl
  | append_singleton edits edit ih =>
    rw [editAll_concat]
    exact ih

theorem filter_editAll {others : String → Bool} {edits : List Edit} (h : ∀ edit ∈ edits, others edit.field = false)
    (record : Record) :
    ((record.editAll edits).fields.filter fun field => others field.1) = record.fields.filter fun field => others field.1 := by
  induction edits using List.reverseRecOn with
  | nil => rfl
  | append_singleton edits edit ih =>
    obtain ⟨hedits, hedit⟩ := List.forall_mem_append.1 h
    rw [editAll_concat, ← ih hedits]
    exact Fields.filter_visit (hedit edit List.mem_cons_self)

theorem Distinct.edit {record : Record} {edit : Edit} (h : record.Distinct)
    (hvalue : ∀ value, edit.present = some value → value.Distinct) : (record.edit edit).2.Distinct := by
  cases edit with
  | set field value =>
    rw [(edit_eq record field value).1]
    exact h.set field (hvalue value rfl)
  | remove field =>
    rw [(edit_eq record field .null).2.1]
    exact h.erase field
  | replace field value =>
    rw [(edit_eq record field value).2.2]
    change (record.replace field value).Distinct
    rw [replace]
    split
    · exact h.set field (hvalue value rfl)
    · exact h

/-- Equality obeys its laws on every record that edits make of an empty one. -/
theorem distinct_editAll (className : String) {edits : List Edit}
    (hvalues : ∀ edit ∈ edits, ∀ value, edit.present = some value → value.Distinct) :
    ((empty className).editAll edits).Distinct := by
  induction edits using List.reverseRecOn with
  | nil => exact distinct_empty className
  | append_singleton edits edit ih =>
    obtain ⟨hedits, hedit⟩ := List.forall_mem_append.1 hvalues
    rw [editAll_concat]
    exact (ih hedits).edit (hedit edit List.mem_cons_self)

end Record

/-! ### Histories -/

namespace Edit

/-- Some edit is as `P` says of it and of the edits before it, and every later one is as `Q` says. -/
def Since (P : List Edit → Edit → Prop) (Q : Edit → Prop) (edits : List Edit) : Prop :=
  ∃ before edit after, edits = before ++ edit :: after ∧ P before edit ∧ ∀ later ∈ after, Q later

/-- A field is there: it was set, and not removed later. -/
def Stands (edits : List Edit) (name : String) : Prop :=
  Since (fun _ edit => ∃ value, edit = .set name value) (· ≠ .remove name) edits

/-- The last edit of a field stored the value. -/
def Stored (edits : List Edit) (name : String) (value : Value) : Prop :=
  Since (fun before edit => edit = .set name value ∨ edit = .replace name value ∧ Stands before name) (·.field ≠ name) edits

/-- A field is there, and came about at the given moment: it was set when it was not there, and not removed later. -/
def Arrived (edits : List Edit) (name : String) (moment : Nat) : Prop :=
  Since (fun before edit => (∃ value, edit = .set name value) ∧ ¬ Stands before name ∧ before.length = moment)
    (· ≠ .remove name) edits

variable {P : List Edit → Edit → Prop} {Q : Edit → Prop} {edits : List Edit} {edit : Edit} {name : String} {value : Value}
  {moment : Nat}

theorem not_since_nil : ¬ Since P Q [] := by
  rintro ⟨before, edit, after, hsplit, -⟩
  exact List.append_ne_nil_of_right_ne_nil before (List.cons_ne_nil edit after) hsplit.symm

theorem since_concat : Since P Q (edits ++ [edit]) ↔ P edits edit ∨ Since P Q edits ∧ Q edit := by
  constructor
  · rintro ⟨before, found, after, hsplit, hfound, hlater⟩
    rcases List.eq_nil_or_concat' after with rfl | ⟨others, last, rfl⟩
    · obtain ⟨rfl, heq⟩ := List.append_inj' hsplit rfl
      obtain rfl := List.singleton_inj.1 heq
      exact .inl hfound
    · rw [← List.cons_append, ← List.append_assoc] at hsplit
      obtain ⟨rfl, heq⟩ := List.append_inj' hsplit rfl
      obtain rfl := List.singleton_inj.1 heq
      obtain ⟨hothers, hlast⟩ := List.forall_mem_append.1 hlater
      exact .inr ⟨⟨before, found, others, rfl, hfound, hothers⟩, hlast edit List.mem_cons_self⟩
  · rintro (hedit | ⟨⟨before, found, after, rfl, hfound, hlater⟩, hedit⟩)
    · exact ⟨edits, edit, [], rfl, hedit, fun _ hmem => absurd hmem List.not_mem_nil⟩
    · refine ⟨before, found, after ++ [edit], ?_, hfound, ?_⟩
      · rw [List.append_assoc, List.cons_append]
      · exact List.forall_mem_append.2 ⟨hlater, List.forall_mem_singleton.2 hedit⟩

theorem Since.mono {P' : List Edit → Edit → Prop} (h : Since P Q edits)
    (himp : ∀ before edit, P before edit → P' before edit) : Since P' Q edits := by
  obtain ⟨before, edit, after, hsplit, hedit, hlater⟩ := h
  exact ⟨before, edit, after, hsplit, himp before edit hedit, hlater⟩

/-- After one more edit, a field is there if the edit leaves or puts something there. -/
theorem stands_concat {there : Prop} [Decidable there] (h : there ↔ Stands edits name) : Stands (edits ++ [edit]) name ↔
    if edit.field = name then (if there then edit.present else edit.absent).isSome = true else there := by
  rw [Stands, since_concat, ← Stands, ← h]
  cases edit with
  | set field value =>
    by_cases hname : field = name
    · simp [Edit.field, present, absent, hname]
    · simp [Edit.field, hname]
  | remove field =>
    by_cases hname : field = name
    · simp [Edit.field, present, absent, hname]
    · simp [Edit.field, hname]
  | replace field value =>
    by_cases hname : field = name
    · by_cases hthere : there <;> simp [Edit.field, present, absent, hname, hthere]
    · simp [Edit.field, hname]

theorem stored_concat {there : Prop} [Decidable there] (h : there ↔ Stands edits name) :
    Stored (edits ++ [edit]) name value ↔
      if edit.field = name then (if there then edit.present else edit.absent) = some value else Stored edits name value := by
  rw [Stored, since_concat, ← Stored, ← h]
  cases edit with
  | set field new =>
    by_cases hname : field = name
    · simp [Edit.field, present, absent, hname]
    · simp [Edit.field, hname]
  | remove field =>
    by_cases hname : field = name
    · simp [Edit.field, present, absent, hname]
    · simp [Edit.field, hname]
  | replace field new =>
    by_cases hname : field = name
    · by_cases hthere : there <;> simp [Edit.field, present, absent, hname, hthere]
    · simp [Edit.field, hname]

theorem Arrived.stands (h : Arrived edits name moment) : Stands edits name :=
  Since.mono h fun _ _ hedit => hedit.1

theorem Arrived.lt_length (h : Arrived edits name moment) : moment < edits.length := by
  obtain ⟨before, edit, after, rfl, ⟨-, -, rfl⟩, -⟩ := h
  rw [List.length_append, List.length_cons]
  omega

theorem arrived_of_concat (h : Arrived (edits ++ [edit]) name moment) (hstands : Stands edits name) :
    Arrived edits name moment := by
  rcases since_concat.1 h with ⟨-, habsent, -⟩ | ⟨hearlier, -⟩
  · exact absurd hstands habsent
  · exact hearlier

theorem moment_of_concat (h : Arrived (edits ++ [edit]) name moment) (hstands : ¬ Stands edits name) :
    moment = edits.length := by
  rcases since_concat.1 h with ⟨-, -, hmoment⟩ | ⟨hearlier, -⟩
  · exact hmoment.symm
  · exact absurd (Arrived.stands hearlier) hstands

theorem exists_arrived (h : Stands edits name) : ∃ moment, Arrived edits name moment := by
  induction edits using List.reverseRecOn with
  | nil => exact absurd h not_since_nil
  | append_singleton edits edit ih =>
    by_cases hearlier : Stands edits name
    · obtain ⟨moment, hmoment⟩ := ih hearlier
      rcases since_concat.1 h with ⟨value, rfl⟩ | ⟨-, hkept⟩
      · exact ⟨moment, since_concat.2 (.inr ⟨hmoment, Edit.noConfusion⟩)⟩
      · exact ⟨moment, since_concat.2 (.inr ⟨hmoment, hkept⟩)⟩
    · rcases since_concat.1 h with hset | ⟨hstands, -⟩
      · exact ⟨edits.length, since_concat.2 (.inl ⟨hset, hearlier, rfl⟩)⟩
      · exact absurd hstands hearlier

end Edit

/-! ### Runs -/

open Edit (Stands Stored Arrived)

/-- Fields are what a history says: each name once, with the value stored last, in the order in which they came about. -/
structure Edit.Agrees (edits : List Edit) (fields : List (String × Value)) : Prop where
  nodup : (Fields.names fields).Nodup
  stands : ∀ name, name ∈ Fields.names fields ↔ Stands edits name
  stored : ∀ name value, fields.lookup name = some value ↔ Stored edits name value
  order : (Fields.names fields).Pairwise fun first second => ∀ earlier later,
    Arrived edits first earlier → Arrived edits second later → earlier < later

namespace Edit

variable {edits : List Edit} {edit : Edit} {record : Record}

theorem agrees_nil : Agrees [] [] where
  nodup := .nil
  stands _ := iff_of_false List.not_mem_nil not_since_nil
  stored _ _ := iff_of_false (by simp) not_since_nil
  order := .nil

theorem Agrees.lookup_edit (h : Agrees edits record.fields) (edit : Edit) (name : String) :
    (record.edit edit).2.fields.lookup name =
      if edit.field = name then if name ∈ Fields.names record.fields then edit.present else edit.absent
      else record.fields.lookup name := by
  change (Fields.visit edit.field edit.present edit.absent record.fields).2.lookup name = _
  by_cases hname : edit.field = name
  · rw [if_pos hname, ← hname, Fields.lookup_visit_self h.nodup]
  · rw [if_neg hname, Fields.lookup_visit_of_ne (Ne.symm hname)]

theorem Agrees.pairwise_edit (h : Agrees edits record.fields) (edit : Edit) :
    (Fields.names (record.edit edit).2.fields).Pairwise fun first second => ∀ earlier later,
      Arrived (edits ++ [edit]) first earlier → Arrived (edits ++ [edit]) second later → earlier < later := by
  -- the moments of the fields that are there stay as they are
  have hold : (Fields.names record.fields).Pairwise fun first second => ∀ earlier later,
      Arrived (edits ++ [edit]) first earlier → Arrived (edits ++ [edit]) second later → earlier < later := by
    refine h.order.imp_of_mem fun hfirst hsecond horder earlier later hearlier hlater => ?_
    apply horder
    · exact arrived_of_concat hearlier ((h.stands _).1 hfirst)
    · exact arrived_of_concat hlater ((h.stands _).1 hsecond)
  change (Fields.names (Fields.visit edit.field edit.present edit.absent record.fields).2).Pairwise _
  rw [Fields.names_visit]
  by_cases hmem : edit.field ∈ Fields.names record.fields
  · rw [if_pos hmem]
    split
    · exact hold
    · exact hold.sublist List.erase_sublist
  · rw [if_neg hmem]
    have hnew : ¬ Stands edits edit.field := mt (h.stands _).2 hmem
    refine List.pairwise_append.2 ⟨hold, ?_, ?_⟩
    · cases edit.absent with
      | none => exact .nil
      | some _ => exact List.pairwise_singleton _ _
    · intro first hfirst second hsecond earlier later hearlier hlater
      have hsecond' : second = edit.field := by
        cases habsent : edit.absent <;> simp_all
      subst hsecond'
      have hfirst' := arrived_of_concat hearlier ((h.stands _).1 hfirst)
      rw [moment_of_concat hlater hnew]
      exact hfirst'.lt_length

/-- One more edit of a record is one more edit of its history. -/
theorem Agrees.concat (h : Agrees edits record.fields) (edit : Edit) :
    Agrees (edits ++ [edit]) (record.edit edit).2.fields := by
  have hlookup := h.lookup_edit edit
  refine ⟨?_, fun name => ?_, fun name value => ?_, h.pairwise_edit edit⟩
  · change (Fields.names (Fields.visit edit.field edit.present edit.absent record.fields).2).Nodup
    rw [Fields.names_visit]
    split
    · split
      · exact h.nodup
      · exact h.nodup.erase _
    · next hmem =>
      cases edit.absent with
      | none =>
        rw [Option.map_none, Option.toList_none, List.append_nil]
        exact h.nodup
      | some _ => exact h.nodup.append (List.nodup_singleton _) (List.disjoint_singleton.2 hmem)
  · rw [Fields.mem_names_iff, ← Option.isSome_iff_exists, hlookup, stands_concat (h.stands name)]
    by_cases hname : edit.field = name
    · rw [if_pos hname, if_pos hname]
    · rw [if_neg hname, if_neg hname, Option.isSome_iff_exists, Fields.mem_names_iff]
  · rw [hlookup, stored_concat (h.stands name)]
    by_cases hname : edit.field = name
    · rw [if_pos hname, if_pos hname]
    · rw [if_neg hname, if_neg hname, h.stored]

/-- A record that was empty at first is what its history says. -/
theorem agrees_editAll (className : String) (edits : List Edit) :
    Agrees edits ((Record.empty className).editAll edits).fields := by
  induction edits using List.reverseRecOn with
  | nil => exact agrees_nil
  | append_singleton edits edit ih =>
    rw [Record.editAll_concat]
    exact ih.concat edit

end Edit

/-- The records with distinct names are those that edits can make of an empty one. -/
theorem nodup_iff_exists_edits (record : Record) :
    record.names.Nodup ↔ ∃ edits, record = (Record.empty record.className).editAll edits := by
  constructor
  · obtain ⟨className, fields⟩ := record
    intro hnodup
    refine ⟨fields.map fun field => .set field.1 field.2, ?_⟩
    induction fields using List.reverseRecOn with
    | nil => rfl
    | append_singleton fields field ih =>
      have hnames : Fields.names (fields ++ [field]) = Fields.names fields ++ [field.1] := List.map_append
      obtain ⟨hearlier, -, hnew⟩ := List.nodup_append'.1 (show (Fields.names fields ++ [field.1]).Nodup from hnames ▸ hnodup)
      rw [List.map_append, List.map_singleton, Record.editAll_concat, ← ih hearlier, (Record.edit_eq _ _ _).1, Record.set,
        Fields.set_of_not_mem (List.disjoint_singleton.1 hnew)]
  · rintro ⟨edits, hrecord⟩
    rw [hrecord]
    exact (Edit.agrees_editAll record.className edits).nodup

namespace Dml

/-- A record has a statement that inserts it exactly if the names are identifiers and the values have literals. -/
theorem insertStatement_isOk_iff {className : String} {record : Record} :
    (∃ s, insertStatement className record = .ok s) ↔ Text.isIdentifier className = true ∧
      ∀ field ∈ present record, Text.isIdentifier field.1 = true ∧ field.2.Writable := by
  have hfields : writtenFields record [] = present record := by
    rw [writtenFields_eq]
    exact List.filter_eq_self.2 fun _ _ => rfl
  simp only [insertStatement, bind_eq_ok]
  constructor
  · rintro ⟨s, table, htable, assigned, hassigned, -⟩
    refine ⟨(checkIdentifier_eq_ok htable).1, fun field hfield => ?_⟩
    rw [← hfields] at hfield
    obtain ⟨column, hcolumn⟩ := exists_of_mapM_eq_ok hassigned hfield
    obtain ⟨name, hname, hcolumn⟩ := bind_eq_ok.1 hcolumn
    obtain ⟨literal, hliteral, -⟩ := bind_eq_ok.1 hcolumn
    exact ⟨(checkIdentifier_eq_ok hname).1, Value.scalar_isOk_iff.1 ⟨literal, hliteral⟩⟩
  · rintro ⟨hclass, hpresent⟩
    have hassigned : ∃ assigned, assignments record [] = .ok assigned := by
      apply exists_mapM_eq_ok
      intro field hfield
      obtain ⟨hname, hvalue⟩ := hpresent field (hfields ▸ hfield)
      obtain ⟨literal, hliteral⟩ := Value.scalar_isOk_iff.2 hvalue
      exact ⟨(field.1, literal), bind_eq_ok.2 ⟨field.1, if_pos hname, bind_eq_ok.2 ⟨literal, hliteral, rfl⟩⟩⟩
    obtain ⟨assigned, hassigned⟩ := hassigned
    by_cases hempty : assigned.isEmpty = true
    · exact ⟨_, className, if_pos hclass, assigned, hassigned, if_pos hempty⟩
    · exact ⟨_, className, if_pos hclass, assigned, hassigned, if_neg hempty⟩

end Dml

/-- After any run of edits a record has each name once, with the value that was stored last since the name was last removed, and the names in the order in which they came about. Every edit tells what was stored under its name. Edits leave alone what they do not name, with its order. And the statement that inserts the record, if its names and values can be written, names what has a value in that order. -/
theorem Record.editAll_follows_history (className : String) (edits : List Edit) :
    let record := (empty className).editAll edits
    (∀ other : Record, other.names.Nodup ↔ ∃ earlier, other = (empty other.className).editAll earlier) ∧
    record.className = className ∧
    record.names.Nodup ∧
    (∀ name value, record.get? name = some value ↔ Stored edits name value) ∧
    (∀ edit value, (record.edit edit).1 = some value ↔ Stored edits edit.field value) ∧
    (∀ name, name ∈ record.names ↔ ∃ moment, Arrived edits name moment) ∧
    (record.names.Pairwise fun first second => ∀ earlier later,
      Arrived edits first earlier → Arrived edits second later → earlier < later) ∧
    (∀ (more : List Edit) (others : String → Bool), (∀ edit ∈ more, others edit.field = false) →
      ((record.editAll more).fields.filter fun field => others field.1) =
        record.fields.filter fun field => others field.1) ∧
    ∀ target,
      ((∃ s, Dml.insertStatement target record = .ok s) ↔ Text.isIdentifier target = true ∧
        ∀ name value, Stored edits name value → value.isNull = false → Text.isIdentifier name = true ∧ value.Writable) ∧
      ∀ s, Dml.insertStatement target record = .ok s → ∃ columns,
        Dml.Request.read? s.render = some (if columns.isEmpty then .insertDefaults target else .insert target columns) ∧
        (Fields.names columns).Sublist record.names ∧
        ∀ name value, (name, value) ∈ columns ↔ Stored edits name value ∧ value.isNull = false := by
  intro record
  have hagrees := Edit.agrees_editAll className edits
  have hpresent : ∀ name value, (name, value) ∈ Dml.present record ↔ Stored edits name value ∧ value.isNull = false := by
    intro name value
    rw [Dml.present, List.mem_filter, Bool.not_eq_true', ← hagrees.stored]
    apply and_congr_left'
    exact ⟨fun hmem => Fields.lookup_of_mem hagrees.nodup hmem, Fields.mem_of_lookup⟩
  refine ⟨nodup_iff_exists_edits, className_editAll _ edits, hagrees.nodup, hagrees.stored, fun edit value => ?_,
    fun name => ?_, hagrees.order, fun more others h => filter_editAll h record, fun target => ⟨?_, fun s hs => ?_⟩⟩
  · rw [show (record.edit edit).1 = record.fields.lookup edit.field from Fields.visit_fst ..]
    exact hagrees.stored edit.field value
  · rw [show name ∈ record.names ↔ _ from hagrees.stands name]
    constructor
    · exact Edit.exists_arrived
    · rintro ⟨moment, hmoment⟩
      exact hmoment.stands
  · rw [Dml.insertStatement_isOk_iff, Prod.forall]
    simp only [hpresent, and_imp]
  · exact ⟨Dml.present record, Dml.read?_insertStatement hs, List.filter_sublist.map _, hpresent⟩

/-- A field that is set again keeps its place, and one that was removed before comes to the end. -/
example : ((Record.empty "Account").editAll [.set "Id" .null, .set "Name" .null, .set "Id" (.boolean true), .remove "Name",
    .set "City" .null, .set "Name" .null]).names = ["Id", "City", "Name"] := by
  decide

end ObjectStore
