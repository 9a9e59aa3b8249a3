import ObjectStore.Decl.Encoding
import ObjectStore.Proofs.Query.Encoding

/-!
# Declarations come back from JSON

Every declaration is decoded from its JSON form. Type references and class bodies are decoded level by level, and what lies in a list of a record is two levels below it, so the depth of the JSON form is always enough levels. With queries, conditions and change statements, these are all the nodes of a program that are exchanged as JSON.
-/

namespace ObjectStore

@[simp]
theorem Modifier.decode_encode (modifier : Modifier) : decode modifier.encode = some modifier := by
  simp [decode, encode]

@[simp]
theorem Modifier.decode_encode_list (modifiers : List Modifier) :
    Json.asList decode (.arr (modifiers.map encode)) = some modifiers :=
  Json.asList_map (by simp)

namespace TypeRef

theorem encodeAll_eq_map (typeRefs : List TypeRef) : encodeAll typeRefs = typeRefs.map encode := by
  induction typeRefs with
  | nil => rw [encodeAll, List.map_nil]
  | cons first rest ih => rw [encodeAll, List.map_cons, ih]

theorem decodeWithin_encode {levels : Nat} {typeRef : TypeRef} (h : typeRef.encode.depth ≤ levels) :
    decodeWithin levels typeRef.encode = some typeRef := by
  induction levels generalizing typeRef with
  | zero =>
    obtain ⟨name, arguments⟩ := typeRef
    simp [encode, Json.depth] at h
  | succ levels ih =>
    obtain ⟨name, arguments⟩ := typeRef
    have harguments : Json.asList (decodeWithin levels) (.arr (arguments.map encode)) = some arguments := by
      apply Json.asList_map
      intro argument hargument
      apply ih
      have hdepth : argument.encode.depth + 2 ≤ (encode ⟨name, arguments⟩).depth := by
        rw [encode, encodeAll_eq_map]
        exact Json.depth_item_lt "arguments" (by simp) (List.mem_map_of_mem hargument)
      omega
    simp [decodeWithin, encode, encodeAll_eq_map, harguments]

@[simp]
theorem decode_encode (typeRef : TypeRef) : decode typeRef.encode = some typeRef :=
  decodeWithin_encode (Nat.le_refl _)

theorem encode_ne_null (typeRef : TypeRef) : typeRef.encode ≠ .null := by
  cases typeRef
  simp [encode]

@[simp]
theorem optional_encode (typeRef : Option TypeRef) :
    (Json.Slot.given (.ofOption encode typeRef)).optional decode = some typeRef :=
  Json.optional_ofOption encode_ne_null (by simp)

@[simp]
theorem decode_encode_list (typeRefs : List TypeRef) : Json.asList decode (.arr (typeRefs.map encode)) = some typeRefs :=
  Json.asList_map (by simp)

end TypeRef

theorem Parameter.decode_encode (parameter : Parameter) : decode parameter.encode = some parameter := by
  simp [decode, encode]

@[simp]
theorem Parameter.decode_encode_list (parameters : List Parameter) :
    Json.asList decode (.arr (parameters.map encode)) = some parameters :=
  Json.asList_map (by simp [decode_encode])

@[simp]
theorem Block.decode_encode (block : Block) : decode block.encode = some block := by
  simp [decode, encode]

@[simp]
theorem Block.optional_encode (block : Option Block) :
    (Json.Slot.given (.ofOption encode block)).optional decode = some block :=
  Json.optional_ofOption (by simp [encode]) (by simp)

/-! ### Members of classes -/

@[simp]
theorem MethodDeclaration.decode_encode (d : MethodDeclaration) : decode d.encode = some d := by
  simp [decode, encode]

@[simp]
theorem ConstructorDeclaration.decode_encode (d : ConstructorDeclaration) : decode d.encode = some d := by
  simp [decode, encode]

@[simp]
theorem FieldDeclaration.decode_encode (d : FieldDeclaration) : decode d.encode = some d := by
  have hnames : Json.asList Json.asString (.arr (d.names.map .str)) = some d.names := Json.asList_map (by simp)
  simp [decode, encode, hnames]

@[simp]
theorem PropertyDeclaration.decode_encode (d : PropertyDeclaration) : decode d.encode = some d := by
  simp [decode, encode]

@[simp]
theorem InterfaceDeclaration.decode_encode (d : InterfaceDeclaration) : decode d.encode = some d := by
  have hmethods : Json.asList MethodDeclaration.decode (.arr (d.methods.map MethodDeclaration.encode)) = some d.methods :=
    Json.asList_map (by simp)
  simp [decode, encode, hmethods]

namespace Declaration

theorem encodeAll_eq_map (declarations : List Declaration) : encodeAll declarations = declarations.map encode := by
  induction declarations with
  | nil => rw [encodeAll, List.map_nil]
  | cons first rest ih => rw [encodeAll, List.map_cons, ih]

theorem decodeMembers_encode {decode : Json → Option Declaration} {d : ClassDeclaration}
    (h : ∀ declaration ∈ d.body, decode declaration.encode = some declaration) :
    ClassDeclaration.decodeMembers decode d.encode = some d := by
  have hbody : Json.asList decode (.arr (d.body.map encode)) = some d.body := Json.asList_map h
  cases d
  simp [ClassDeclaration.decodeMembers, ClassDeclaration.encode, encodeAll_eq_map, hbody]

theorem depth_member_lt {d : ClassDeclaration} {member : Declaration} (h : member ∈ d.body) :
    member.encode.depth + 2 ≤ d.encode.depth := by
  cases d
  rw [ClassDeclaration.encode, encodeAll_eq_map]
  exact Json.depth_item_lt "body" (by simp) (List.mem_map_of_mem h)

theorem decodeWithin_encode {levels : Nat} {declaration : Declaration} (h : declaration.encode.depth ≤ levels) :
    decodeWithin levels declaration.encode = some declaration := by
  induction levels generalizing declaration with
  | zero =>
    cases declaration <;> simp [encode, Json.depth] at h
  | succ levels ih =>
    cases declaration with
    | method d => simp [decodeWithin, encode, Json.variant?]
    | field d => simp [decodeWithin, encode, Json.variant?]
    | constructor d => simp [decodeWithin, encode, Json.variant?]
    | property d => simp [decodeWithin, encode, Json.variant?]
    | interface d => simp [decodeWithin, encode, Json.variant?]
    | innerClass d =>
      have hmembers : ClassDeclaration.decodeMembers (decodeWithin levels) d.encode = some d := by
        apply decodeMembers_encode
        intro member hmember
        apply ih
        have hclass : d.encode.depth + 1 = (encode (.innerClass d)).depth := by
          simp [encode, Json.depth, Json.membersDepth]
        have hdepth := depth_member_lt hmember
        omega
      simp [decodeWithin, encode, Json.variant?, hmembers]

@[simp]
theorem decode_encode (declaration : Declaration) : decode declaration.encode = some declaration :=
  decodeWithin_encode (Nat.le_refl _)

end Declaration

/-! ### All nodes -/

/-- Queries, conditions, order terms, operands, paths, change statements, type references and declarations come back from JSON, those with numbers if these are finite. Whatever JSON is decoded as one of them, what was decoded comes back as well. -/
theorem nodes_survive_json :
    Json.Survives Query.encode Query.decode Query.IsFinite ∧
      Json.Survives Condition.encode Condition.decode Condition.IsFinite ∧
      Json.Survives OrderBy.encode OrderBy.decode (fun _ => True) ∧
      Json.Survives Operand.encode Operand.decode Operand.IsFinite ∧
      Json.Survives FieldPath.encode FieldPath.decode (fun _ => True) ∧
      Json.Survives Dml.Statement.encode Dml.Statement.decode (fun _ => True) ∧
      Json.Survives TypeRef.encode TypeRef.decode (fun _ => True) ∧
      Json.Survives Declaration.encode Declaration.decode (fun _ => True) := by
  refine ⟨?query, ?condition, ?order, ?operand, ?path, ?change, ?typeRef, ?declaration⟩
  case query => exact .intro (fun _ => Query.decode_encode) fun _ _ => Query.isFinite_of_decode
  case condition => exact .intro (fun _ => Condition.decode_encode) fun _ _ => Condition.isFinite_of_decode
  case operand => exact .intro (fun _ => Operand.decode_encode) fun _ _ => Operand.isFinite_of_decode
  case order => exact .always OrderBy.decode_encode
  case path => exact .always FieldPath.decode_encode
  case change => exact .always Dml.Statement.decode_encode
  case typeRef => exact .always TypeRef.decode_encode
  case declaration => exact .always Declaration.decode_encode

def cheapQuery : Query where
  source := "Account"
  fields := [⟨["Name"]⟩]
  filter := some (.not (.all [.compare ⟨["Revenue"]⟩ .less (.literal (.double ⟨0x3ff8000000000000⟩))]))
  orderBy := []
  limit := some 10
  offset := none
  span := Span.unknown

/-- The query in another order, without the members that may be left out, and with the comparison as an array. -/
def cheapQueryJson : Json :=
  .obj [("limit", .int 10), ("from", .str "Account"), ("fields", .arr [.obj [("segments", .arr [.str "Name"])]]),
    ("order_by", .arr []), ("filter", .obj [("Not", .obj [("And", .arr [.obj [("Compare", .arr [
      .obj [("segments", .arr [.str "Revenue"])], .str "Lt",
      .obj [("Literal", .obj [("Double", .double ⟨0x3ff8000000000000⟩)])]])]])])])]

theorem cheapQuery_survives :
    cheapQuery.IsFinite ∧ Query.decode cheapQueryJson = some cheapQuery ∧
      Query.decode cheapQuery.encode = some cheapQuery := by
  have hdecoded : Query.decode cheapQueryJson = some cheapQuery := by rfl
  have hfinite : cheapQuery.IsFinite := by
    intro condition hcondition
    cases hcondition
    simp [Condition.IsFinite, Condition.AllFinite, Operand.IsFinite, Literal.IsFinite]
    decide
  exact ⟨hfinite, hdecoded, nodes_survive_json.1.decode_encode cheapQuery hfinite⟩

end ObjectStore
