import ObjectStore.Json.Decode
import ObjectStore.Proofs.Fields
import ObjectStore.Proofs.Number.Literal
import ObjectStore.Proofs.Results

/-!
# What decoding finds in what was encoded

An object with distinct member names has one slot for each of them, with its value. So a record comes back if its members do. What was decoded as a member or as an item of a list was decoded from a value, and an item lies deeper than the record that holds the list.
-/

namespace ObjectStore.Json

variable {α : Type}

/-- The values of a kind, if they are such as JSON can hold, come back, and so does whatever was decoded. -/
structure Survives (encode : α → Json) (decode : Json → Option α) (holds : α → Prop) : Prop where
  decode_encode : ∀ a, holds a → decode (encode a) = some a
  decode_again : ∀ json a, decode json = some a → decode (encode a) = some a

/-- A decoder finds only such values as JSON can hold. -/
theorem Survives.intro {encode : α → Json} {decode : Json → Option α} {holds : α → Prop}
    (hback : ∀ a, holds a → decode (encode a) = some a) (hfound : ∀ json a, decode json = some a → holds a) :
    Survives encode decode holds where
  decode_encode := hback
  decode_again json a h := hback a (hfound json a h)

theorem Survives.always {encode : α → Json} {decode : Json → Option α} (hback : ∀ a, decode (encode a) = some a) :
    Survives encode decode fun _ => True :=
  .intro (fun a _ => hback a) fun _ _ _ => trivial

/-! ### Slots -/

theorem atMostOnce_of_nodup {members : List (String × Json)} (h : (members.map Prod.fst).Nodup) (name : String) :
    atMostOnce members name = true := by
  have hcount := List.nodup_iff_count_le_one.1 h name
  rw [List.count_eq_length_filter, List.filter_map, List.length_map] at hcount
  exact decide_eq_true hcount

@[simp]
theorem slots_obj {names : List String} {members : List (String × Json)} (hnames : members.map Prod.fst = names)
    (hnodup : names.Nodup) : slots names (obj members) = some (members.map fun member => .given member.2) := by
  subst hnames
  have hall : (members.map Prod.fst).all (atMostOnce members) = true :=
    List.all_eq_true.2 fun name _ => atMostOnce_of_nodup hnodup name
  rw [slots, if_pos hall, List.map_map]
  congr 1
  apply List.map_congr_left
  intro member hmem
  simp [Fields.lookup_of_mem hnodup hmem]

-- The next two lemmas are not stated by `rfl`, so that the checker never compares decoders by running them.
@[simp]
theorem required_given (decode : Json → Option α) (json : Json) : (Slot.given json).required decode = decode json := by
  rw [Slot.required]

@[simp]
theorem withDefault_given (default : α) (decode : Json → Option α) (json : Json) :
    (Slot.given json).withDefault default decode = decode json := by
  rw [Slot.withDefault]

/-- An optional member comes back, since no value is written as a null. -/
theorem optional_ofOption {encode : α → Json} {decode : Json → Option α} (hnull : ∀ a, encode a ≠ null)
    {value : Option α} (h : ∀ a, value = some a → decode (encode a) = some a) :
    (Slot.given (ofOption encode value)).optional decode = some value := by
  cases value with
  | none => rfl
  | some a =>
    rw [ofOption, Slot.optional]
    · rw [h a rfl]
      rfl
    · exact hnull a

theorem exists_of_optional {decode : Json → Option α} {slot : Slot} {a : α} (h : slot.optional decode = some (some a)) :
    ∃ json, decode json = some a := by
  unfold Slot.optional at h
  split at h
  · cases h
  · exact ⟨_, by simpa using h⟩
  · cases h
  · cases h

theorem exists_of_required {decode : Json → Option α} {slot : Slot} {a : α} (h : slot.required decode = some a) :
    ∃ json, decode json = some a := by
  cases slot with
  | given json => exact ⟨json, h⟩
  | absent => cases h
  | cutOff => cases h

theorem asList_map {encode : α → Json} {decode : Json → Option α} {values : List α}
    (h : ∀ a ∈ values, decode (encode a) = some a) : asList decode (arr (values.map encode)) = some values := by
  have hvalues : values.mapM (fun a => decode (encode a)) = some (values.map id) := mapM_eq_some h
  rw [List.map_id] at hvalues
  rw [asList, ← hvalues]
  exact List.mapM_map

theorem exists_of_asList {decode : Json → Option α} {json : Json} {values : List α} (h : asList decode json = some values)
    {a : α} (ha : a ∈ values) : ∃ item, decode item = some a := by
  cases json with
  | arr items =>
    obtain ⟨item, -, hitem⟩ := exists_of_mem_forall₂ (forall₂_of_mapM_eq_some h) ha
    exact ⟨item, hitem⟩
  | null => cases h
  | bool b => cases h
  | int n => cases h
  | double d => cases h
  | str s => cases h
  | obj members => cases h

/-! ### Scalars -/

@[simp]
theorem asString_str (s : String) : asString (str s) = some s :=
  rfl

@[simp]
theorem asBool_bool (b : Bool) : asBool (bool b) = some b :=
  rfl

@[simp]
theorem asUInt64_ofUInt64 (n : UInt64) : asUInt64 (ofUInt64 n) = some n := by
  have hbound := n.toNat_lt
  simp [asUInt64, ofUInt64]
  omega

@[simp]
theorem asInt64_int (n : Int64) : asInt64 (int n.toInt) = some n :=
  Number.int64?_toInt n

theorem asDouble_ofDouble {d : Double} (hfinite : d.isFinite = true) : asDouble (ofDouble d) = some d := by
  simp [asDouble, ofDouble, Double.finite?, hfinite]

theorem isFinite_of_asDouble {json : Json} {d : Double} (h : asDouble json = some d) : d.isFinite = true := by
  have hfinite : ∀ {value : Double}, value.finite? = some d → d.isFinite = true := by
    intro value hvalue
    unfold Double.finite? at hvalue
    split at hvalue
    · simp_all
    · cases hvalue
  cases json with
  | int n => exact hfinite h
  | double value => exact hfinite h
  | null => cases h
  | bool b => cases h
  | str s => cases h
  | arr items => cases h
  | obj members => cases h

/-! ### Depths -/

theorem depth_le_itemsDepth {items : List Json} {item : Json} (h : item ∈ items) : item.depth ≤ itemsDepth items := by
  induction items with
  | nil => simp at h
  | cons first rest ih =>
    rw [itemsDepth]
    rcases List.mem_cons.1 h with rfl | h
    · exact Nat.le_max_left _ _
    · exact Nat.le_trans (ih h) (Nat.le_max_right _ _)

theorem depth_le_membersDepth {members : List (String × Json)} {member : String × Json} (h : member ∈ members) :
    member.2.depth ≤ membersDepth members := by
  induction members with
  | nil => simp at h
  | cons first rest ih =>
    rw [membersDepth]
    rcases List.mem_cons.1 h with rfl | h
    · exact Nat.le_max_left _ _
    · exact Nat.le_trans (ih h) (Nat.le_max_right _ _)

/-- The items of a list in a member lie two levels below the record. -/
theorem depth_item_lt {members : List (String × Json)} (name : String) {items : List Json} {item : Json}
    (hmember : (name, arr items) ∈ members) (hitem : item ∈ items) : item.depth + 2 ≤ (obj members).depth := by
  have hitems := depth_le_itemsDepth hitem
  have hmembers := depth_le_membersDepth hmember
  simp only [depth] at hmembers ⊢
  omega

end ObjectStore.Json
