import ObjectStore.Dml.Statement
import ObjectStore.Proofs.Json.Decoding

/-!
# Queries come back from JSON

The nodes of a query are decoded from their JSON forms, and so are change statements. The JSON form of a literal can hold a double only if it is finite, so nodes that contain literals come back if all their numbers are finite. A decoder meets finite numbers only, which makes whatever it has decoded such a node.
-/

namespace ObjectStore

@[simp]
theorem Span.decode_encode (span : Span) : decode span.encode = some span := by
  simp [decode, encode]

@[simp]
theorem FieldPath.decode_encode (path : FieldPath) : decode path.encode = some path := by
  have hsegments : Json.asList Json.asString (.arr (path.segments.map .str)) = some path.segments :=
    Json.asList_map fun _ _ => rfl
  simp [decode, encode, hsegments]

/-! ### Operands -/

/-- A literal that is no infinite number and no NaN. -/
def Literal.IsFinite : Literal → Prop
  | double d => d.isFinite = true
  | _ => True

theorem Literal.decode_encode {literal : Literal} (h : literal.IsFinite) : decode literal.encode = some literal := by
  cases literal with
  | null => rfl
  | string s => rfl
  | integer n => simp [encode, decode, Json.variant?]
  | double d => simp [encode, decode, Json.variant?, Json.asDouble_ofDouble h]
  | boolean b => rfl

theorem Literal.isFinite_of_decode {json : Json} {literal : Literal} (h : decode json = some literal) :
    literal.IsFinite := by
  cases literal with
  | double d =>
    unfold decode at h
    split at h <;> simp at h
    exact Json.isFinite_of_asDouble h
  | null => trivial
  | string s => trivial
  | integer n => trivial
  | boolean b => trivial

def Operand.IsFinite : Operand → Prop
  | literal l => l.IsFinite
  | bind _ => True
  | list items => ∀ item ∈ items, item.IsFinite

theorem Operand.decode_encode {operand : Operand} (h : operand.IsFinite) : decode operand.encode = some operand := by
  cases operand with
  | literal l => simp [encode, decode, Json.variant?, Literal.decode_encode h]
  | bind name => rfl
  | list items =>
    simp [encode, decode, Json.variant?, Json.asList_map fun item hitem => Literal.decode_encode (h item hitem)]

theorem Operand.isFinite_of_decode {json : Json} {operand : Operand} (h : decode json = some operand) :
    operand.IsFinite := by
  cases operand with
  | literal l =>
    unfold decode at h
    split at h <;> simp at h
    exact Literal.isFinite_of_decode h
  | bind name => trivial
  | list items =>
    unfold decode at h
    split at h <;> simp at h
    intro item hitem
    obtain ⟨content, hcontent⟩ := Json.exists_of_asList h hitem
    exact Literal.isFinite_of_decode hcontent

@[simp]
theorem Comparison.decode_encode (comparison : Comparison) : decode comparison.encode = some comparison := by
  cases comparison <;> rfl

namespace Condition

mutual

def IsFinite : Condition → Prop
  | compare _ _ operand => operand.IsFinite
  | all parts => AllFinite parts
  | any parts => AllFinite parts
  | not inner => inner.IsFinite

def AllFinite : List Condition → Prop
  | [] => True
  | part :: rest => part.IsFinite ∧ AllFinite rest

end

mutual

theorem decode_encode : ∀ {condition : Condition}, condition.IsFinite → decode condition.encode = some condition
  | compare field comparison operand, h => by
    have hoperand : operand.IsFinite := by simpa [IsFinite] using h
    simp [encode, decode, decodeCompare, Operand.decode_encode hoperand]
  | all parts, h => by
    simp [encode, decode, decodeAll_encodeAll (by simpa [IsFinite] using h)]
  | any parts, h => by
    simp [encode, decode, decodeAll_encodeAll (by simpa [IsFinite] using h)]
  | not inner, h => by
    simp [encode, decode, decode_encode (by simpa [IsFinite] using h)]

theorem decodeAll_encodeAll : ∀ {parts : List Condition}, AllFinite parts → decodeAll (encodeAll parts) = some parts
  | [], _ => by simp [encodeAll, decodeAll]
  | part :: rest, h => by
    rw [AllFinite] at h
    simp [encodeAll, decodeAll, decode_encode h.1, decodeAll_encodeAll h.2]

end

theorem isFinite_of_decode {json : Json} {condition : Condition} (h : decode json = some condition) :
    condition.IsFinite := by
  revert condition
  -- The induction follows the decoder: one case for each variant, one for all other values, and two for lists.
  refine decode.induct (fun json => ∀ {condition}, decode json = some condition → condition.IsFinite)
    (fun items => ∀ {parts}, decodeAll items = some parts → AllFinite parts) ?_ ?_ ?_ ?_ ?_ ?_ ?_ json
  · intro content condition h
    rw [decode, decodeCompare] at h
    split at h
    · simp [Option.bind_eq_some_iff] at h
      obtain ⟨path, -, comparison, -, operand, hoperand, rfl⟩ := h
      obtain ⟨json, hjson⟩ := Json.exists_of_required hoperand
      exact Operand.isFinite_of_decode hjson
    · cases h
  · intro items ih condition h
    simp [decode] at h
    obtain ⟨parts, hparts, rfl⟩ := h
    exact ih hparts
  · intro items ih condition h
    simp [decode] at h
    obtain ⟨parts, hparts, rfl⟩ := h
    exact ih hparts
  · intro content ih condition h
    simp [decode] at h
    obtain ⟨inner, hinner, rfl⟩ := h
    have hfinite : inner.IsFinite := ih hinner
    rwa [IsFinite]
  · intro json hcompare hall hany hnot condition h
    rw [decode] at h
    · cases h
    · exact hcompare
    · exact hall
    · exact hany
    · exact hnot
  · intro parts h
    simp [decodeAll] at h
    subst h
    trivial
  · intro item rest hitem hrest parts h
    simp [decodeAll, Option.bind_eq_some_iff] at h
    obtain ⟨part, hpart, others, hothers, rfl⟩ := h
    exact ⟨hitem hpart, hrest hothers⟩

end Condition

/-! ### Queries and change statements -/

@[simp]
theorem OrderBy.decode_encode (order : OrderBy) : decode order.encode = some order := by
  obtain ⟨field, direction, nulls⟩ := order
  have hdirection : Json.constant [("Asc", SortDirection.ascending), ("Desc", .descending)] (encodeDirection direction) =
      some direction := by
    cases direction <;> rfl
  have hnulls : (Json.Slot.given (.ofOption encodeNulls nulls)).optional
      (Json.constant [("First", NullsOrder.first), ("Last", .last)]) = some nulls := by
    apply Json.optional_ofOption
    · intro place
      cases place <;> simp [encodeNulls]
    · intro place _
      cases place <;> rfl
  simp [decode, encode, hdirection, hnulls]

/-- All numbers in the condition of a query are finite. -/
def Query.IsFinite (query : Query) : Prop :=
  ∀ condition, query.filter = some condition → condition.IsFinite

theorem Condition.encode_ne_null (condition : Condition) : condition.encode ≠ .null := by
  cases condition <;> simp [encode]

theorem Query.decode_encode {query : Query} (h : query.IsFinite) : decode query.encode = some query := by
  have hfilter := Json.optional_ofOption Condition.encode_ne_null fun condition hcondition =>
    Condition.decode_encode (h condition hcondition)
  have hcount : ∀ count : Option UInt64, (Json.Slot.given (.ofOption .ofUInt64 count)).optional Json.asUInt64 = some count :=
    fun count => Json.optional_ofOption (by simp [Json.ofUInt64]) (by simp)
  have hfields : Json.asList FieldPath.decode (.arr (query.fields.map FieldPath.encode)) = some query.fields :=
    Json.asList_map (by simp)
  have horder : Json.asList OrderBy.decode (.arr (query.orderBy.map OrderBy.encode)) = some query.orderBy :=
    Json.asList_map (by simp)
  simp [decode, encode, hfilter, hcount, hfields, horder]

theorem Query.isFinite_of_decode {json : Json} {query : Query} (h : decode json = some query) : query.IsFinite := by
  unfold decode at h
  split at h
  · simp [Option.bind_eq_some_iff] at h
    obtain ⟨source, -, fields, -, filter, hfilter, orderBy, -, limit, -, offset, -, span, -, rfl⟩ := h
    intro condition hcondition
    dsimp only at hcondition
    rw [hcondition] at hfilter
    obtain ⟨content, hcontent⟩ := Json.exists_of_optional hfilter
    exact Condition.isFinite_of_decode hcontent
  · cases h

namespace Dml

@[simp]
theorem Operation.decode_encode (operation : Operation) : decode operation.encode = some operation := by
  cases operation <;> rfl

theorem Statement.decode_encode (statement : Statement) : decode statement.encode = some statement := by
  have hkey : (Json.Slot.given (.ofOption .str statement.upsertKey)).optional Json.asString = some statement.upsertKey :=
    Json.optional_ofOption (by simp) (by simp)
  simp [decode, encode, hkey]

end Dml

end ObjectStore
