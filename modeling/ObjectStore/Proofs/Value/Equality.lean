import Mathlib.Data.List.Perm.Subperm
import Mathlib.Logic.Relation
import ObjectStore.Proofs.Fields

/-!
# Equality of values

Two records are equal if they are of one class, have equally many fields, and each field of the first is found in the second with an equal value. Only one direction is looked up, but the names in a record differ from each other, so equally many names on the right leave none over. So equality is symmetric and does not see the order of fields. It is transitive too. What keeps it from being reflexive is a number that equals nothing: a value equals itself exactly if it holds none, at any depth.
-/

namespace ObjectStore

/-! ### Numbers -/

namespace Double

variable {a b c : Double}

theorem equal_iff : a.equal b = true ↔
    (a.isNaN = false ∧ b.isNaN = false) ∧ (a = b ∨ a.isZero = true ∧ b.isZero = true) := by
  simp [equal]

theorem equal_self : a.equal a = true ↔ a.isNaN = false := by
  simp [equal_iff]

theorem equal_symm (h : a.equal b = true) : b.equal a = true := by
  rw [equal_iff] at h ⊢
  exact ⟨h.1.symm, h.2.imp Eq.symm And.symm⟩

theorem equal_trans (h : a.equal b = true) (h' : b.equal c = true) : a.equal c = true := by
  rw [equal_iff] at h h' ⊢
  refine ⟨⟨h.1.1, h'.1.2⟩, ?_⟩
  rcases h.2 with rfl | ⟨ha, hb⟩
  · exact h'.2
  · rcases h'.2 with rfl | ⟨-, hc⟩
    · exact .inr ⟨ha, hb⟩
    · exact .inr ⟨ha, hc⟩

end Double

/-! ### Values and their members -/

mutual

/-- Whether every number in a value is one. -/
def Value.nanFree : Value → Bool
  | double d => !d.isNaN
  | object _ fields => nanFreeFields fields
  | list items => nanFreeItems items
  | _ => true

def Value.nanFreeFields : List (String × Value) → Bool
  | [] => true
  | (_, value) :: rest => value.nanFree && nanFreeFields rest

def Value.nanFreeItems : List Value → Bool
  | [] => true
  | item :: rest => item.nanFree && nanFreeItems rest

end

def Record.nanFree (record : Record) : Bool := Value.nanFreeFields record.fields

mutual

/-- The fields of every record in a value have different names. -/
def Value.Distinct : Value → Prop
  | object _ fields => (Fields.names fields).Nodup ∧ DistinctFields fields
  | list items => DistinctItems items
  | _ => True

def Value.DistinctFields : List (String × Value) → Prop
  | [] => True
  | (_, value) :: rest => value.Distinct ∧ DistinctFields rest

def Value.DistinctItems : List Value → Prop
  | [] => True
  | item :: rest => item.Distinct ∧ DistinctItems rest

end

def Record.Distinct (record : Record) : Prop := (Value.ofRecord record).Distinct

namespace Value

/-- A value that is compared as a whole: neither a number with a point nor one that has members. -/
def isPlain : Value → Bool
  | double _ => false
  | object _ _ => false
  | list _ => false
  | _ => true

/-- What holds of all values without members, and of a value with members if it holds of these, holds of every value. -/
@[elab_as_elim]
theorem membersInduction {motive : Value → Prop} (plain : ∀ value, value.isPlain = true → motive value)
    (double : ∀ d, motive (double d))
    (object : ∀ className fields, (∀ field ∈ fields, motive field.2) → motive (object className fields))
    (list : ∀ items, (∀ item ∈ items, motive item) → motive (list items)) (value : Value) : motive value :=
  match value with
  | .null => plain _ rfl
  | .string _ => plain _ rfl
  | .integer _ => plain _ rfl
  | .boolean _ => plain _ rfl
  | .double d => double d
  | .object className fields => object className fields fun field _ =>
      membersInduction plain double object list field.2
  | .list items => list items fun item _ => membersInduction plain double object list item
termination_by sizeOf value
decreasing_by
  · have hsize := List.sizeOf_lt_of_mem ‹field ∈ fields›
    obtain ⟨name, inner⟩ := field
    simp only [Prod.mk.sizeOf_spec, Value.object.sizeOf_spec] at hsize ⊢
    omega
  · have hsize := List.sizeOf_lt_of_mem ‹item ∈ items›
    simp only [Value.list.sizeOf_spec]
    omega

variable {a b c : Value} {className : String} {fields others : List (String × Value)} {items : List Value}

theorem nanFreeFields_iff {fields : List (String × Value)} :
    nanFreeFields fields = true ↔ ∀ field ∈ fields, field.2.nanFree = true := by
  induction fields with
  | nil => simp [nanFreeFields]
  | cons field fields ih => rw [nanFreeFields, Bool.and_eq_true, ih, List.forall_mem_cons]

theorem nanFreeItems_iff : nanFreeItems items = true ↔ ∀ item ∈ items, item.nanFree = true := by
  induction items with
  | nil => simp [nanFreeItems]
  | cons item items ih => rw [nanFreeItems, Bool.and_eq_true, ih, List.forall_mem_cons]

theorem distinct_object_iff : (object className fields).Distinct ↔
    (Fields.names fields).Nodup ∧ ∀ field ∈ fields, field.2.Distinct := by
  have hfields : DistinctFields fields ↔ ∀ field ∈ fields, field.2.Distinct := by
    induction fields with
    | nil => simp [DistinctFields]
    | cons field fields ih => rw [DistinctFields, ih, List.forall_mem_cons]
  rw [Distinct, hfields]

theorem distinct_list_iff : (list items).Distinct ↔ ∀ item ∈ items, item.Distinct := by
  rw [Distinct]
  induction items with
  | nil => simp [DistinctItems]
  | cons item items ih => rw [DistinctItems, ih, List.forall_mem_cons]

/-! ### What a value equals -/

theorem sameFields_iff {fields others : List (String × Value)} : sameFields fields others = true ↔
    ∀ field ∈ fields, ∃ other, others.lookup field.1 = some other ∧ field.2.same other = true := by
  induction fields with
  | nil => simp [sameFields]
  | cons field fields ih =>
    obtain ⟨name, value⟩ := field
    rw [sameFields, Bool.and_eq_true, ih, List.forall_mem_cons]
    cases others.lookup name <;> simp

theorem sameItems_iff {items others : List Value} :
    sameItems items others = true ↔ List.Forall₂ (fun item other => item.same other = true) items others := by
  induction items generalizing others with
  | nil => cases others <;> simp [sameItems]
  | cons item items ih => cases others <;> simp [sameItems, ih]

theorem same_iff_of_isPlain (h : a.isPlain = true) : a.same b = true ↔ a = b := by
  cases a <;> cases h <;> cases b <;> simp [same]

theorem double_same_iff {d : Double} : (double d).same b = true ↔ ∃ other, b = double other ∧ d.equal other = true := by
  cases b <;> simp [same]

/-- Each field of the record on the left is looked up in the one on the right, which has no more of them. -/
theorem object_same_iff : (object className fields).same b = true ↔
    ∃ others, b = object className others ∧ fields.length = others.length ∧
      ∀ field ∈ fields, ∃ other, others.lookup field.1 = some other ∧ field.2.same other = true := by
  cases b with
  | object className' others =>
    rw [same, Bool.and_eq_true, Bool.and_eq_true, beq_iff_eq, beq_iff_eq, sameFields_iff]
    constructor
    · rintro ⟨⟨rfl, hlength⟩, hfields⟩
      exact ⟨others, rfl, hlength, hfields⟩
    · rintro ⟨others, ⟨⟩, hlength, hfields⟩
      exact ⟨⟨rfl, hlength⟩, hfields⟩
  | _ => simp [same]

theorem list_same_iff : (list items).same b = true ↔
    ∃ others, b = list others ∧ List.Forall₂ (fun item other => item.same other = true) items others := by
  cases b <;> simp [same, sameItems_iff]

end Value

namespace Fields

variable {fields others : List (String × Value)} {name : String} {value other : Value}

/-- Equally many names that are all found leave no other names. -/
theorem names_perm_of_found (hnodup : (names fields).Nodup) (hlength : fields.length = others.length)
    (hfound : ∀ field ∈ fields, ∃ other, others.lookup field.1 = some other) : (names fields).Perm (names others) := by
  have hsubset : names fields ⊆ names others := by
    intro name hname
    obtain ⟨field, hfield, rfl⟩ := List.mem_map.1 hname
    exact mem_names_iff.2 (hfound field hfield)
  have hlength' : (names others).length ≤ (names fields).length := by
    rw [names, names, List.length_map, List.length_map, hlength]
  exact (List.subperm_of_subset hnodup hsubset).perm_of_length_le hlength'

end Fields

namespace Value

variable {a b c : Value}

/-! ### The laws -/

/-- A value equals itself unless there is a number in it that does not. -/
theorem same_self_iff (h : a.Distinct) : a.same a = true ↔ a.nanFree = true := by
  induction a using membersInduction with
  | plain a hplain =>
    rw [same_iff_of_isPlain hplain]
    cases a <;> cases hplain <;> simp [nanFree]
  | double d => rw [same, Double.equal_self, nanFree, Bool.not_eq_true']
  | object className fields ih =>
    obtain ⟨hnodup, hinner⟩ := distinct_object_iff.1 h
    rw [object_same_iff, nanFree, nanFreeFields_iff]
    constructor
    · rintro ⟨_, ⟨⟩, -, hfound⟩ field hfield
      obtain ⟨other, hother, hsame⟩ := hfound field hfield
      rw [Fields.lookup_of_mem hnodup hfield, Option.some.injEq] at hother
      subst hother
      exact (ih field hfield (hinner field hfield)).1 hsame
    · intro hnan
      refine ⟨fields, rfl, rfl, fun field hfield => ⟨field.2, Fields.lookup_of_mem hnodup hfield, ?_⟩⟩
      exact (ih field hfield (hinner field hfield)).2 (hnan field hfield)
  | list items ih =>
    rw [distinct_list_iff] at h
    rw [list_same_iff, nanFree, nanFreeItems_iff]
    simp only [list.injEq, exists_eq_left', List.forall₂_same]
    exact forall₂_congr fun item hitem => ih item hitem (h item hitem)

theorem same_symm (h : a.Distinct) (hsame : a.same b = true) : b.same a = true := by
  induction a using membersInduction generalizing b with
  | plain a hplain =>
    rw [same_iff_of_isPlain hplain] at hsame
    rw [← hsame, same_iff_of_isPlain hplain]
  | double d =>
    obtain ⟨other, rfl, hequal⟩ := double_same_iff.1 hsame
    exact double_same_iff.2 ⟨d, rfl, Double.equal_symm hequal⟩
  | object className fields ih =>
    obtain ⟨hnodup, hinner⟩ := distinct_object_iff.1 h
    obtain ⟨others, rfl, hlength, hfound⟩ := object_same_iff.1 hsame
    have hperm := Fields.names_perm_of_found hnodup hlength fun field hfield =>
      (hfound field hfield).imp fun _ => And.left
    refine object_same_iff.2 ⟨fields, rfl, hlength.symm, fun other hother => ?_⟩
    -- A field on the right has the name of one on the left, which was looked up and found to be this one.
    obtain ⟨field, hfield, hname⟩ := List.mem_map.1 (hperm.mem_iff.2 (List.mem_map_of_mem hother))
    obtain ⟨found, hlookup, hequal⟩ := hfound field hfield
    rw [hname, Fields.lookup_of_mem (hperm.nodup_iff.1 hnodup) hother, Option.some.injEq] at hlookup
    subst hlookup
    exact ⟨field.2, hname ▸ Fields.lookup_of_mem hnodup hfield, ih field hfield (hinner field hfield) hequal⟩
  | list items ih =>
    obtain ⟨others, rfl, hitems⟩ := list_same_iff.1 hsame
    rw [distinct_list_iff] at h
    have hsymm : ∀ item ∈ items, ∀ other, item.same other = true → other.same item = true :=
      fun item hitem other => ih item hitem (h item hitem)
    have hboth := (List.forall₂_and_left items others).2 ⟨hsymm, hitems⟩
    exact list_same_iff.2 ⟨items, rfl, (hboth.imp fun item other hitem => hitem.1 other hitem.2).flip⟩

theorem same_trans (h : a.same b = true) (h' : b.same c = true) : a.same c = true := by
  induction a using membersInduction generalizing b c with
  | plain a hplain =>
    rw [same_iff_of_isPlain hplain] at h
    rwa [← h] at h'
  | double d =>
    obtain ⟨second, rfl, hequal⟩ := double_same_iff.1 h
    obtain ⟨third, rfl, hequal'⟩ := double_same_iff.1 h'
    exact double_same_iff.2 ⟨third, rfl, Double.equal_trans hequal hequal'⟩
  | object className fields ih =>
    obtain ⟨second, rfl, hlength, hfound⟩ := object_same_iff.1 h
    obtain ⟨third, rfl, hlength', hfound'⟩ := object_same_iff.1 h'
    refine object_same_iff.2 ⟨third, rfl, hlength.trans hlength', fun field hfield => ?_⟩
    obtain ⟨middle, hmiddle, hequal⟩ := hfound field hfield
    obtain ⟨last, hlast, hequal'⟩ := hfound' _ (Fields.mem_of_lookup hmiddle)
    exact ⟨last, hlast, ih field hfield hequal hequal'⟩
  | list items ih =>
    obtain ⟨second, rfl, hitems⟩ := list_same_iff.1 h
    obtain ⟨third, rfl, hitems'⟩ := list_same_iff.1 h'
    refine list_same_iff.2 ⟨third, rfl, ?_⟩
    clear h h'
    induction hitems generalizing third with
    | nil =>
      cases hitems'
      exact .nil
    | cons hitem hrest ihrest =>
      cases hitems' with
      | cons hitem' hrest' =>
        obtain ⟨hfirst, hothers⟩ := List.forall_mem_cons.1 ih
        exact .cons (hfirst hitem hitem') (ihrest hothers _ hrest')

/-! ### The order of fields -/

/-- The fields of one record in a value, at any depth, in another order. -/
inductive Shuffled : Value → Value → Prop where
  | fields (className : String) {fields others : List (String × Value)} (h : fields.Perm others) :
      Shuffled (.object className fields) (.object className others)
  | inField (className : String) (before : List (String × Value)) (name : String) (after : List (String × Value))
      {value other : Value} (h : Shuffled value other) :
      Shuffled (.object className (before ++ (name, value) :: after)) (.object className (before ++ (name, other) :: after))
  | inItem (before after : List Value) {value other : Value} (h : Shuffled value other) :
      Shuffled (.list (before ++ value :: after)) (.list (before ++ other :: after))

/-- The same value but for the orders of the fields in its records. -/
def Reordered (a b : Value) : Prop := Relation.ReflTransGen Shuffled a b

theorem Shuffled.symm (h : Shuffled a b) : Shuffled b a := by
  induction h with
  | fields className h => exact .fields className h.symm
  | inField className before name after h ih => exact .inField className before name after ih
  | inItem before after h ih => exact .inItem before after ih

theorem Shuffled.distinct (h : Shuffled a b) (ha : a.Distinct) : b.Distinct := by
  induction h with
  | fields className h =>
    rw [distinct_object_iff] at ha ⊢
    exact ⟨(h.map _).nodup_iff.1 ha.1, fun field hfield => ha.2 field (h.mem_iff.2 hfield)⟩
  | inField className before name after h ih =>
    rw [distinct_object_iff, List.forall_mem_append, List.forall_mem_cons] at ha ⊢
    obtain ⟨hnodup, hbefore, hvalue, hafter⟩ := ha
    refine ⟨?_, hbefore, ih hvalue, hafter⟩
    rw [Fields.names, List.map_append, List.map_cons] at hnodup ⊢
    exact hnodup
  | inItem before after h ih =>
    rw [distinct_list_iff, List.forall_mem_append, List.forall_mem_cons] at ha ⊢
    exact ⟨ha.1, ih ha.2.1, ha.2.2⟩

theorem Shuffled.same (h : Shuffled a b) (ha : a.Distinct) (hnan : a.nanFree = true) : a.same b = true := by
  have hb := h.distinct ha
  induction h with
  | @fields className fields others h =>
    rw [distinct_object_iff] at ha hb
    rw [nanFree, nanFreeFields_iff] at hnan
    refine object_same_iff.2 ⟨others, rfl, h.length_eq, fun field hfield => ⟨field.2, ?_, ?_⟩⟩
    · exact Fields.lookup_of_mem hb.1 (h.mem_iff.1 hfield)
    · exact (same_self_iff (ha.2 field hfield)).2 (hnan field hfield)
  | @inField className before name after value other h ih =>
    rw [distinct_object_iff] at ha hb
    rw [nanFree, nanFreeFields_iff] at hnan
    have hkept : ∀ field, field ∈ before ∨ field ∈ after → ∃ found,
        (before ++ (name, other) :: after).lookup field.1 = some found ∧ field.2.same found = true := by
      intro field hfield
      have hmem : ∀ inner, field ∈ before ++ (name, inner) :: after := fun inner =>
        List.mem_append.2 (hfield.imp_right (List.mem_cons_of_mem _))
      exact ⟨field.2, Fields.lookup_of_mem hb.1 (hmem other),
        (same_self_iff (ha.2 field (hmem value))).2 (hnan field (hmem value))⟩
    have hchanged : ∃ found, (before ++ (name, other) :: after).lookup name = some found ∧ value.same found = true := by
      have hmem : (name, value) ∈ before ++ (name, value) :: after := by simp
      have hmem' : (name, other) ∈ before ++ (name, other) :: after := by simp
      exact ⟨other, Fields.lookup_of_mem hb.1 hmem', ih (ha.2 _ hmem) (hnan _ hmem) (hb.2 _ hmem')⟩
    refine object_same_iff.2 ⟨_, rfl, by simp, ?_⟩
    rw [List.forall_mem_append, List.forall_mem_cons]
    exact ⟨fun field hfield => hkept field (.inl hfield), hchanged, fun field hfield => hkept field (.inr hfield)⟩
  | @inItem before after value other h ih =>
    rw [distinct_list_iff, List.forall_mem_append, List.forall_mem_cons] at ha hb
    rw [nanFree, nanFreeItems_iff, List.forall_mem_append, List.forall_mem_cons] at hnan
    have hkept : ∀ items : List Value, (∀ item ∈ items, item.Distinct) → (∀ item ∈ items, item.nanFree = true) →
        List.Forall₂ (fun item other => item.same other = true) items items := fun items hitems hnans =>
      List.forall₂_same.2 fun item hitem => (same_self_iff (hitems item hitem)).2 (hnans item hitem)
    refine list_same_iff.2 ⟨_, rfl, List.rel_append (hkept before ha.1 hnan.1) (.cons ?_ (hkept after ha.2.2 hnan.2.2))⟩
    exact ih ha.2.1 hnan.2.1 hb.2.1

theorem Shuffled.same_of_same (h : Shuffled a b) (ha : a.Distinct) (hsame : a.same c = true) : b.same c = true := by
  have hself := same_trans hsame (same_symm ha hsame)
  have hab := h.same ha ((same_self_iff ha).1 hself)
  exact same_trans (same_symm ha hab) hsame

theorem Reordered.distinct (h : Reordered a b) (ha : a.Distinct) : b.Distinct := by
  induction h with
  | refl => exact ha
  | tail _ h ih => exact h.distinct ih

theorem Reordered.same_left (h : Reordered a b) (ha : a.Distinct) (c : Value) : b.same c = a.same c := by
  induction h with
  | refl => rfl
  | tail hreordered h ih =>
    rw [← ih, Bool.eq_iff_iff]
    have hmiddle := Reordered.distinct hreordered ha
    exact ⟨h.symm.same_of_same (h.distinct hmiddle), h.same_of_same hmiddle⟩

end Value

/-! ### Records by their fields -/

theorem Record.same_iff {record other : Record} (h : record.Distinct) (h' : other.Distinct) : record.same other = true ↔
    record.className = other.className ∧
      ∀ name, Option.Rel (fun value found => value.same found = true) (record.get? name) (other.get? name) := by
  obtain ⟨className, fields⟩ := record
  obtain ⟨className', others⟩ := other
  have hnodup : (Fields.names fields).Nodup := (Value.distinct_object_iff.1 h).1
  have hnodup' : (Fields.names others).Nodup := (Value.distinct_object_iff.1 h').1
  change (Value.object className fields).same (.object className' others) = true ↔ className = className' ∧
    ∀ name, Option.Rel (fun value found => value.same found = true) (fields.lookup name) (others.lookup name)
  rw [Value.object_same_iff]
  constructor
  · rintro ⟨_, ⟨⟩, hlength, hfound⟩
    have hperm := Fields.names_perm_of_found hnodup hlength fun field hfield =>
      (hfound field hfield).imp fun _ => And.left
    refine ⟨rfl, fun name => ?_⟩
    cases hvalue : fields.lookup name with
    | some value =>
      obtain ⟨found, hlookup, hsame⟩ := hfound _ (Fields.mem_of_lookup hvalue)
      rw [hlookup]
      exact .some hsame
    | none =>
      have hname := Fields.lookup_eq_none_iff.1 hvalue
      rw [hperm.mem_iff] at hname
      rw [Fields.lookup_eq_none_iff.2 hname]
      exact .none
  · rintro ⟨rfl, hfields⟩
    have hmem : ∀ name, name ∈ Fields.names fields ↔ name ∈ Fields.names others := by
      intro name
      have hname := hfields name
      rw [Fields.mem_names_iff, Fields.mem_names_iff]
      generalize fields.lookup name = value, others.lookup name = found at hname
      cases hname <;> simp
    have hperm := (List.perm_ext_iff_of_nodup hnodup hnodup').2 hmem
    refine ⟨others, rfl, ?_, fun field hfield => ?_⟩
    · simpa only [Fields.names, List.length_map] using hperm.length_eq
    · have hname := hfields field.1
      rw [Fields.lookup_of_mem hnodup hfield] at hname
      generalize others.lookup field.1 = found at hname
      cases hname with
      | some hsame => exact ⟨_, rfl, hsame⟩

/-! ### Changing fields -/

namespace Record

variable {record : Record} {value : Value}

theorem distinct_empty (className : String) : (empty className).Distinct :=
  Value.distinct_object_iff.2 ⟨.nil, fun _ hfield => absurd hfield List.not_mem_nil⟩

theorem Distinct.set (h : record.Distinct) (field : String) (hvalue : value.Distinct) : (record.set field value).Distinct := by
  obtain ⟨hnodup, hfields⟩ := Value.distinct_object_iff.1 h
  refine Value.distinct_object_iff.2 ⟨Fields.nodup_set field value hnodup, fun entry hentry => ?_⟩
  rcases Fields.eq_or_mem_of_mem_set hentry with rfl | hentry
  · exact hvalue
  · exact hfields entry hentry

theorem Distinct.erase (h : record.Distinct) (field : String) : (record.erase field).Distinct := by
  obtain ⟨hnodup, hfields⟩ := Value.distinct_object_iff.1 h
  have hsublist : (Fields.erase field record.fields).Sublist record.fields := List.eraseP_sublist
  exact Value.distinct_object_iff.2 ⟨hnodup.sublist (hsublist.map _), fun entry hentry => hfields entry (hsublist.subset hentry)⟩

end Record

/-! ### Equality -/

/-- Equality is symmetric and transitive, and a value equals itself exactly if it holds no number that equals nothing. The order of the fields does not count in any of the records in a value. Two records are equal exactly if they are of one class and every name has equal values in both or is in neither. -/
theorem Value.same_lawful {a b reordered reordered' : Value} (ha : a.Distinct) (hb : b.Distinct) (hreordered : a.Reordered reordered)
    (hreordered' : b.Reordered reordered') :
    (a.same a = true ↔ a.nanFree = true) ∧
    b.same a = a.same b ∧
    (∀ c, a.same b = true → b.same c = true → a.same c = true) ∧
    reordered.same reordered' = a.same b ∧
    ∀ record other : Record, record.Distinct → other.Distinct → (record.same other = true ↔
      record.className = other.className ∧
        ∀ name, Option.Rel (fun value found => value.same found = true) (record.get? name) (other.get? name)) := by
  have hsymm : ∀ {a b : Value}, a.Distinct → b.Distinct → b.same a = a.same b := fun ha hb =>
    Bool.eq_iff_iff.2 ⟨same_symm hb, same_symm ha⟩
  refine ⟨same_self_iff ha, hsymm ha hb, fun c => same_trans, ?_, fun record other => Record.same_iff⟩
  have hdistinct := hreordered.distinct ha
  calc reordered.same reordered' = a.same reordered' := hreordered.same_left ha reordered'
    _ = reordered'.same a := hsymm (hreordered'.distinct hb) ha
    _ = b.same a := hreordered'.same_left hb a
    _ = a.same b := hsymm ha hb

/-- A rated visit, with the account that was visited. -/
def ratedVisit : Value :=
  .object "Visit" [("Rating", .double (.ofInt 4)), ("Account", .object "Account" [("Name", .string "Acme"), ("Id", .string "a1")])]

/-- The same visit, in which the fields of both records stand the other way round. -/
def turnedVisit : Value :=
  .object "Visit" [("Account", .object "Account" [("Id", .string "a1"), ("Name", .string "Acme")]), ("Rating", .double (.ofInt 4))]

theorem turnedVisit_same : ratedVisit.Distinct ∧ ratedVisit.Reordered turnedVisit ∧ turnedVisit.same ratedVisit = true := by
  have hdistinct : ratedVisit.Distinct := by
    simp [ratedVisit, Value.Distinct, Value.DistinctFields, Fields.names]
  have hreordered : ratedVisit.Reordered turnedVisit :=
    .tail (.single (.inField "Visit" [_] "Account" [] (.fields "Account" (.swap ..)))) (.fields "Visit" (.swap ..))
  obtain ⟨hself, -, -, hsame, -⟩ := Value.same_lawful hdistinct hdistinct hreordered .refl
  exact ⟨hdistinct, hreordered, hsame.trans (hself.2 rfl)⟩

end ObjectStore
