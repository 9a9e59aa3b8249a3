import Mathlib.Data.List.Forall2
import Mathlib.Data.List.Pairwise
import ObjectStore.Class.Basic
import ObjectStore.Proofs.Class.Overloads

/-!
# Classes of declarations

A class has what the members of its declaration say. Each method is an overload of its name in one of the two tables, each constructor is kept, and each name of a field or a property has the kind of its last declaration, in the place of its first. This is an invariant over the members. Only a method can be refused: one that has the name and the parameter types of an earlier one in the same table.
-/

namespace ObjectStore

/-! ### Members -/

namespace MethodDeclaration

/-- One of the modifiers is `static`, in any case. -/
def Static (d : MethodDeclaration) : Prop := ∃ modifier ∈ d.modifiers, Text.lowerAscii modifier.name = "static"

instance (d : MethodDeclaration) : Decidable d.Static :=
  inferInstanceAs (Decidable (∃ modifier ∈ d.modifiers, Text.lowerAscii modifier.name = "static"))

/-- The same name, and parameters whose types are displayed alike. -/
def SameSignature (d other : MethodDeclaration) : Prop :=
  other.name = d.name ∧ other.parameters.map (·.typeRef.display) = d.parameters.map (·.typeRef.display)

/-- Two methods that a class does not have both. -/
def Clashes (d other : MethodDeclaration) : Prop :=
  (other.Static ↔ d.Static) ∧ d.SameSignature other

/-- A method as it is declared; types are known by how they are displayed. -/
structure Becomes (d : MethodDeclaration) (method : Method) : Prop where
  name_eq : method.name = d.name
  parameterTypes_eq : method.parameterTypes = d.parameters.map (·.typeRef.display)
  parameterNames_eq : method.parameterNames = d.parameters.map (·.name)
  returnType_eq : method.returnType = d.returnType.map TypeRef.display
  modifiers_eq : method.modifiers = d.modifiers
  body_eq : method.body = d.body.map .interpreted

theorem becomes_ofDeclaration (d : MethodDeclaration) : d.Becomes (.ofDeclaration d) :=
  ⟨rfl, rfl, rfl, rfl, rfl, rfl⟩

theorem isStatic_ofDeclaration (d : MethodDeclaration) : (Method.ofDeclaration d).isStatic = true ↔ d.Static := by
  have hname : ∀ name : String, Text.sameName name "static" = true ↔ Text.lowerAscii name = "static" := by
    intro name
    have hlower : "static".toList.map Char.toLower = "static".toList := by decide
    rw [Text.sameName_iff, hlower, Text.lowerAscii]
    simp only [String.ext_iff, String.toList_ofList]
  have hmodifiers : (Method.ofDeclaration d).isStatic = d.modifiers.any fun modifier => Text.sameName modifier.name "static" := rfl
  rw [hmodifiers, List.any_eq_true]
  exact exists_congr fun modifier => and_congr_right fun _ => hname modifier.name

end MethodDeclaration

/-- A constructor as it is declared. It returns nothing and is never abstract. -/
structure ConstructorDeclaration.Becomes (d : ConstructorDeclaration) (method : Method) : Prop where
  name_eq : method.name = d.name
  parameterTypes_eq : method.parameterTypes = d.parameters.map (·.typeRef.display)
  parameterNames_eq : method.parameterNames = d.parameters.map (·.name)
  returnType_eq : method.returnType = none
  modifiers_eq : method.modifiers = d.modifiers
  body_eq : method.body = some (.interpreted d.body)

theorem ConstructorDeclaration.becomes_ofConstructor (d : ConstructorDeclaration) : d.Becomes (.ofConstructor d) :=
  ⟨rfl, rfl, rfl, rfl, rfl, rfl⟩

namespace Declaration

def method? : Declaration → Option MethodDeclaration
  | method d => some d
  | _ => none

def constructor? : Declaration → Option ConstructorDeclaration
  | constructor d => some d
  | _ => none

/-- The fields that a member declares, with their types. -/
def fields : Declaration → List (String × TypeRef)
  | field d => d.names.map fun name => (name, d.typeRef)
  | property d => [(d.name, d.typeRef)]
  | _ => []

/-- The methods of a body, as they are written. -/
def methodsOf (body : List Declaration) : List MethodDeclaration := body.filterMap method?

def constructorsOf (body : List Declaration) : List ConstructorDeclaration := body.filterMap constructor?

/-- The names of fields and properties, each time that they are declared. -/
def fieldsOf (body : List Declaration) : List (String × TypeRef) := body.flatMap fields

/-- No method clashes with an earlier one. -/
def Distinct (methods : List MethodDeclaration) : Prop := methods.Pairwise fun earlier later => ¬ later.Clashes earlier

variable (body : List Declaration) (member : Declaration)

theorem methodsOf_concat : methodsOf (body ++ [member]) = methodsOf body ++ member.method?.toList := by
  rw [methodsOf, List.filterMap_append, ← methodsOf]
  cases member <;> rfl

theorem constructorsOf_concat : constructorsOf (body ++ [member]) = constructorsOf body ++ member.constructor?.toList := by
  rw [constructorsOf, List.filterMap_append, ← constructorsOf]
  cases member <;> rfl

theorem fieldsOf_concat : fieldsOf (body ++ [member]) = fieldsOf body ++ member.fields := by
  rw [fieldsOf, List.flatMap_append, List.flatMap_singleton, ← fieldsOf]

theorem distinct_concat_iff {methods : List MethodDeclaration} {d : MethodDeclaration} :
    Distinct (methods ++ [d]) ↔ Distinct methods ∧ ∀ earlier ∈ methods, ¬ d.Clashes earlier := by
  rw [Distinct, List.pairwise_append, ← Distinct]
  simp

end Declaration

open Declaration

/-! ### One member -/

/-- The two tables hold the methods, sorted by whether they are static. -/
structure ClassType.Sorts (methods : List MethodDeclaration) (c : ClassType) : Prop where
  statics : c.staticMethods.Holds ((methods.filter (·.Static)).map .ofDeclaration)
  instances : c.instanceMethods.Holds ((methods.filter (¬ ·.Static)).map .ofDeclaration)

/-- A class as it is after some members of its declaration. -/
structure ClassType.After (d : ClassDeclaration) (body : List Declaration) (c : ClassType) : Prop where
  name_eq : c.name = d.name
  modifiers_eq : c.modifiers = d.modifiers
  superClass_eq : c.superClass = d.superClass.map TypeRef.display
  sorts : c.Sorts (methodsOf body)
  constructors_eq : c.constructors = (constructorsOf body).map .ofConstructor
  fields_eq : c.fields = Fields.ofSettings ((fieldsOf body).map fun field => (field.1, .ofTypeRef field.2))

section

variable {methods : List MethodDeclaration} {sort : MethodDeclaration → Prop} [DecidablePred sort] {d : MethodDeclaration}

theorem filter_concat (hd : sort d) : (methods ++ [d]).filter (sort ·) = methods.filter (sort ·) ++ [d] := by
  rw [List.filter_append, List.filter_singleton, decide_eq_true hd, cond_true]

theorem filter_concat_of_not (hd : ¬ sort d) : (methods ++ [d]).filter (sort ·) = methods.filter (sort ·) := by
  rw [List.filter_append, List.filter_singleton, decide_eq_false hd, cond_false, List.append_nil]

theorem MethodTable.add_member {table : MethodTable} (h : table.Holds ((methods.filter (sort ·)).map .ofDeclaration))
    (className : String) (hd : sort d) :
    (∃ e later, table.add className (.ofDeclaration d) = (.error e, later) ∧
      ∃ earlier ∈ methods, sort earlier ∧ d.SameSignature earlier) ∨
    (∃ later, table.add className (.ofDeclaration d) = (.ok (), later) ∧
      later.Holds (((methods ++ [d]).filter (sort ·)).map .ofDeclaration) ∧
      ∀ earlier ∈ methods, sort earlier → ¬ d.SameSignature earlier) := by
  rcases h.add_cases className (.ofDeclaration d) with ⟨⟨other, hother, hrepeats⟩, hadd⟩ | ⟨hnew, later, hadd, hlater⟩
  · obtain ⟨earlier, hearlier, rfl⟩ := List.mem_map.1 hother
    obtain ⟨hmem, hsort⟩ := List.mem_filter.1 hearlier
    exact .inl ⟨_, _, hadd, earlier, hmem, of_decide_eq_true hsort, hrepeats⟩
  · refine .inr ⟨later, hadd, ?_, fun earlier hmem hsort hsame => ?_⟩
    · rwa [filter_concat hd, List.map_append, List.map_singleton]
    · exact hnew _ (List.mem_map_of_mem (List.mem_filter.2 ⟨hmem, decide_eq_true hsort⟩)) hsame

end

namespace ClassType

variable {d : ClassDeclaration} {body : List Declaration} {c : ClassType}

/-- A method is refused if it clashes with an earlier one, and else it is in its table and nothing but the tables is changed. -/
theorem withMethod_cases {methods : List MethodDeclaration} (h : c.Sorts methods) (m : MethodDeclaration) :
    ((∃ e, c.withMethod (.ofDeclaration m) = .error e) ∧ ∃ earlier ∈ methods, m.Clashes earlier) ∨
    ((∀ earlier ∈ methods, ¬ m.Clashes earlier) ∧ ∃ statics instances,
      c.withMethod (.ofDeclaration m) = .ok { c with staticMethods := statics, instanceMethods := instances } ∧
      Sorts (methods ++ [m]) { c with staticMethods := statics, instanceMethods := instances }) := by
  rw [withMethod]
  by_cases hstatic : m.Static
  · rw [if_pos (m.isStatic_ofDeclaration.2 hstatic), withStaticMethod]
    rcases MethodTable.add_member h.statics c.name hstatic with
      ⟨e, later, hadd, earlier, hmem, hsort, hsame⟩ | ⟨later, hadd, hlater, hnew⟩
    · rw [hadd]
      exact .inl ⟨⟨e, rfl⟩, earlier, hmem, iff_of_true hsort hstatic, hsame⟩
    · rw [hadd]
      refine .inr ⟨fun earlier hmem hclash => hnew earlier hmem (hclash.1.2 hstatic) hclash.2, later, c.instanceMethods, rfl, hlater, ?_⟩
      rw [filter_concat_of_not (not_not_intro hstatic)]
      exact h.instances
  · rw [if_neg (mt m.isStatic_ofDeclaration.1 hstatic), withInstanceMethod]
    rcases MethodTable.add_member h.instances c.name hstatic with
      ⟨e, later, hadd, earlier, hmem, hsort, hsame⟩ | ⟨later, hadd, hlater, hnew⟩
    · rw [hadd]
      exact .inl ⟨⟨e, rfl⟩, earlier, hmem, iff_of_false hsort hstatic, hsame⟩
    · rw [hadd]
      refine .inr ⟨fun earlier hmem hclash => hnew earlier hmem (mt hclash.1.1 hstatic) hclash.2, c.staticMethods, later, rfl, ?_, hlater⟩
      rw [filter_concat_of_not hstatic]
      exact h.statics

/-- Members other than methods and constructors set the fields that they declare, if any. -/
theorem withMember_of_fields {member : Declaration} (hmethod : member.method? = none) (hconstructor : member.constructor? = none)
    (c : ClassType) : c.withMember member = .ok { c with
      fields := (member.fields.map fun field => (field.1, FieldType.ofTypeRef field.2)).foldl
        (fun fields setting => Fields.set setting.1 setting.2 fields) c.fields } := by
  cases member with
  | method d => cases hmethod
  | constructor d => cases hconstructor
  | field d =>
    rw [withMember, Declaration.fields, List.map_map]
    refine congrArg Except.ok ?_
    induction d.names generalizing c with
    | nil => rfl
    | cons name names ih => rw [List.foldl_cons, ih, List.map_cons, List.foldl_cons]; rfl
  | property d => rfl
  | innerClass d => rfl
  | interface d => rfl

theorem After.concat {later : ClassType} (h : After d body c) (member : Declaration)
    (hsame : later.name = c.name ∧ later.modifiers = c.modifiers ∧ later.superClass = c.superClass)
    (hsorts : later.Sorts (methodsOf body ++ member.method?.toList))
    (hconstructors : later.constructors = c.constructors ++ member.constructor?.toList.map .ofConstructor)
    (hfields : later.fields = (member.fields.map fun field => (field.1, FieldType.ofTypeRef field.2)).foldl
      (fun fields setting => Fields.set setting.1 setting.2 fields) c.fields) : After d (body ++ [member]) later where
  name_eq := hsame.1.trans h.name_eq
  modifiers_eq := hsame.2.1.trans h.modifiers_eq
  superClass_eq := hsame.2.2.trans h.superClass_eq
  sorts := by
    rw [methodsOf_concat]
    exact hsorts
  constructors_eq := by
    rw [constructorsOf_concat, List.map_append, ← h.constructors_eq]
    exact hconstructors
  fields_eq := by
    rw [fieldsOf_concat, List.map_append, Fields.ofSettings_append, ← h.fields_eq]
    exact hfields

/-- A member that is not a method leaves the methods as they are. -/
theorem Sorts.of_tables {methods : List MethodDeclaration} {member : Declaration} {later : ClassType} (h : c.Sorts methods)
    (hmethod : member.method? = none) (hstatics : later.staticMethods = c.staticMethods)
    (hinstances : later.instanceMethods = c.instanceMethods) : later.Sorts (methods ++ member.method?.toList) := by
  rw [hmethod, Option.toList_none, List.append_nil]
  exact ⟨hstatics ▸ h.statics, hinstances ▸ h.instances⟩

/-- A class after one more member, which is refused only if it is a method that clashes with an earlier one. -/
theorem After.withMember (h : After d body c) (member : Declaration) :
    ((∃ e, c.withMember member = .error e) ∧ ¬ Distinct (methodsOf (body ++ [member]))) ∨
    ((Distinct (methodsOf body) → Distinct (methodsOf (body ++ [member]))) ∧
      ∃ later, c.withMember member = .ok later ∧ After d (body ++ [member]) later) := by
  rw [methodsOf_concat]
  cases hmethod : member.method? with
  | some m =>
    obtain rfl : member = .method m := by cases member <;> cases hmethod; rfl
    rw [Option.toList_some, distinct_concat_iff, ClassType.withMember]
    rcases withMethod_cases h.sorts m with ⟨hrefused, earlier, hmem, hclash⟩ | ⟨hnew, statics, instances, hok, hsorts⟩
    · exact .inl ⟨hrefused, fun hdistinct => hdistinct.2 earlier hmem hclash⟩
    · exact .inr ⟨fun hdistinct => ⟨hdistinct, hnew⟩, _, hok,
        h.concat (.method m) ⟨rfl, rfl, rfl⟩ hsorts (List.append_nil _).symm rfl⟩
  | none =>
    rw [Option.toList_none, List.append_nil]
    refine .inr ⟨id, ?_⟩
    cases hconstructor : member.constructor? with
    | some k =>
      obtain rfl : member = .constructor k := by cases member <;> cases hconstructor; rfl
      exact ⟨_, rfl, h.concat (.constructor k) ⟨rfl, rfl, rfl⟩ (h.sorts.of_tables hmethod rfl rfl) rfl rfl⟩
    | none =>
      refine ⟨_, withMember_of_fields hmethod hconstructor c, h.concat member ⟨rfl, rfl, rfl⟩ ?_ ?_ rfl⟩
      · exact h.sorts.of_tables hmethod rfl rfl
      · rw [hconstructor]
        exact (List.append_nil _).symm

/-! ### All members -/

theorem ofDeclaration_cases (d : ClassDeclaration) :
    ((∃ e, ofDeclaration d = .error e) ∧ ¬ Distinct (methodsOf d.body)) ∨
    (Distinct (methodsOf d.body) ∧ ∃ c, ofDeclaration d = .ok c ∧ After d d.body c) := by
  rw [ofDeclaration]
  generalize d.body = body
  -- From the end, as what a member does depends on those before it.
  induction body using List.reverseRecOn with
  | nil => exact .inr ⟨.nil, _, rfl, rfl, rfl, rfl, ⟨MethodTable.holds_empty, MethodTable.holds_empty⟩, rfl, rfl⟩
  | append_singleton body member ih =>
    rw [List.foldlM_append]
    rcases ih with ⟨⟨e, herror⟩, hclash⟩ | ⟨hdistinct, c, hc, hafter⟩
    · rw [herror]
      refine .inl ⟨⟨e, rfl⟩, fun hdistinct => hclash ?_⟩
      rw [methodsOf_concat] at hdistinct
      exact hdistinct.sublist (List.sublist_append_left _ _)
    · rw [hc]
      rcases hafter.withMember member with ⟨⟨e, herror⟩, hclash⟩ | ⟨hkept, later, hlater, hnext⟩
      · refine .inl ⟨⟨e, ?_⟩, hclash⟩
        change c.withMember member >>= pure = _
        rw [herror]
        rfl
      · refine .inr ⟨hkept hdistinct, later, ?_, hnext⟩
        change c.withMember member >>= pure = _
        rw [hlater]
        rfl

end ClassType

namespace ClassDeclaration

variable {d : ClassDeclaration} {c : ClassType}

/-- Two methods of the declaration are of one sort and have one signature. -/
def RepeatsMethod (d : ClassDeclaration) : Prop :=
  ∃ first second, [first, second].Sublist (methodsOf d.body) ∧ second.Clashes first

theorem distinct_iff (d : ClassDeclaration) : Distinct (methodsOf d.body) ↔ ¬ d.RepeatsMethod := by
  rw [Distinct, List.pairwise_iff_forall_sublist, RepeatsMethod]
  constructor
  · rintro hdistinct ⟨first, second, hsublist, hclash⟩
    exact hdistinct hsublist hclash
  · intro hnone first second hsublist hclash
    exact hnone ⟨first, second, hsublist, hclash⟩

theorem ofDeclaration_isOk_iff : (∃ c, ClassType.ofDeclaration d = .ok c) ↔ ¬ d.RepeatsMethod := by
  rw [← distinct_iff]
  rcases ClassType.ofDeclaration_cases d with ⟨⟨e, herror⟩, hclash⟩ | ⟨hdistinct, c, hc, -⟩
  · rw [herror]
    exact iff_of_false (by rintro ⟨c, hok⟩; cases hok) hclash
  · exact iff_of_true ⟨c, hc⟩ hdistinct

theorem ofDeclaration_isError_iff : (∃ e, ClassType.ofDeclaration d = .error e) ↔ d.RepeatsMethod := by
  rw [← not_iff_not, ← ofDeclaration_isOk_iff]
  cases ClassType.ofDeclaration d <;> simp

/-- A class that has what the declaration says, and nothing else. The overloads of a name are the methods of that name and sort as they are written. A field stands where its name is first declared, with the kind that is declared last. -/
structure Becomes (d : ClassDeclaration) (c : ClassType) : Prop where
  name_eq : c.name = d.name
  modifiers_eq : c.modifiers = d.modifiers
  superClass_eq : c.superClass = d.superClass.map TypeRef.display
  statics : ∀ name, List.Forall₂ MethodDeclaration.Becomes
    ((methodsOf d.body).filter fun m => m.Static ∧ m.name = name) (c.staticMethods.get name)
  instances : ∀ name, List.Forall₂ MethodDeclaration.Becomes
    ((methodsOf d.body).filter fun m => ¬ m.Static ∧ m.name = name) (c.instanceMethods.get name)
  staticNames : c.staticMethods.names = (((methodsOf d.body).filter (·.Static)).map (·.name)).eraseDups
  instanceNames : c.instanceMethods.names = (((methodsOf d.body).filter (¬ ·.Static)).map (·.name)).eraseDups
  constructors : List.Forall₂ ConstructorDeclaration.Becomes (constructorsOf d.body) c.constructors
  fieldNames : c.fields.map Prod.fst = ((fieldsOf d.body).map Prod.fst).eraseDups
  fieldKinds : ∀ before name type after, fieldsOf d.body = before ++ (name, type) :: after → name ∉ after.map Prod.fst →
    c.fieldType? name = some (.ofTypeRef type)

theorem get_of_holds {table : MethodTable} {methods : List MethodDeclaration} {sort : MethodDeclaration → Prop}
    [DecidablePred sort] (h : table.Holds ((methods.filter (sort ·)).map .ofDeclaration)) (name : String) :
    table.get name = (methods.filter fun m => sort m ∧ m.name = name).map .ofDeclaration := by
  rw [h.get_eq, List.filter_map, List.filter_filter]
  refine congrArg (List.map _) (List.filter_congr fun m _ => ?_)
  rw [Bool.decide_and, Bool.and_comm]
  rfl

theorem forall₂_get {table : MethodTable} {methods : List MethodDeclaration} {sort : MethodDeclaration → Prop}
    [DecidablePred sort] (h : table.Holds ((methods.filter (sort ·)).map .ofDeclaration)) (name : String) :
    List.Forall₂ MethodDeclaration.Becomes (methods.filter fun m => sort m ∧ m.name = name) (table.get name) := by
  rw [get_of_holds h, List.forall₂_map_right_iff, List.forall₂_same]
  exact fun m _ => m.becomes_ofDeclaration

theorem names_of_holds {table : MethodTable} {methods : List MethodDeclaration} (h : table.Holds (methods.map .ofDeclaration)) :
    table.names = (methods.map (·.name)).eraseDups := by
  rw [h.names_eq, List.map_map]
  rfl

theorem becomes_of_after (h : ClassType.After d d.body c) : d.Becomes c where
  name_eq := h.name_eq
  modifiers_eq := h.modifiers_eq
  superClass_eq := h.superClass_eq
  statics := forall₂_get h.sorts.statics
  instances := forall₂_get h.sorts.instances
  staticNames := names_of_holds h.sorts.statics
  instanceNames := names_of_holds h.sorts.instances
  constructors := by
    rw [h.constructors_eq, List.forall₂_map_right_iff, List.forall₂_same]
    exact fun k _ => k.becomes_ofConstructor
  fieldNames := by
    have hnames := Fields.names_ofSettings ((fieldsOf d.body).map fun field => (field.1, FieldType.ofTypeRef field.2))
    rw [← h.fields_eq, Fields.names, Fields.names, List.map_map] at hnames
    exact hnames
  fieldKinds := by
    intro before name type after hbody hlast
    have hnone : (after.map fun field => (field.1, FieldType.ofTypeRef field.2)).reverse.lookup name = none := by
      rw [List.lookup_eq_none_iff]
      intro field hfield
      obtain ⟨declared, hdeclared, rfl⟩ := List.mem_map.1 (List.mem_reverse.1 hfield)
      exact bne_iff_ne.2 fun hname => hlast (hname ▸ List.mem_map_of_mem hdeclared)
    rw [ClassType.fieldType?, h.fields_eq, Fields.lookup_ofSettings, hbody, List.map_append, List.map_cons,
      List.reverse_append, List.reverse_cons, List.append_assoc, List.lookup_append, hnone, Option.none_or,
      List.singleton_append, List.lookup_cons_self]

/-- The class of a declaration has what the declaration says, member by member, and there is no such class exactly if two methods of one sort have the same name and parameter types that are displayed alike. -/
theorem class_of_declaration (d : ClassDeclaration) :
    (∀ c, ClassType.ofDeclaration d = .ok c → d.Becomes c) ∧ ((∃ e, ClassType.ofDeclaration d = .error e) ↔ d.RepeatsMethod) := by
  refine ⟨fun c hc => ?_, ofDeclaration_isError_iff⟩
  rcases ClassType.ofDeclaration_cases d with ⟨⟨e, herror⟩, -⟩ | ⟨-, later, hlater, hafter⟩
  · rw [herror] at hc
    cases hc
  · rw [hlater] at hc
    cases hc
    exact becomes_of_after hafter

/-- A class with members of all kinds: a static method that is overloaded, one of the same name and type that is not static, and a field that is declared again as a property. -/
def ledger : ClassDeclaration :=
  let post (modifiers : List Modifier) (type : TypeRef) : Declaration :=
    .method { (default : MethodDeclaration) with name := "post", modifiers, parameters := [⟨type, "entry"⟩] }
  { (default : ClassDeclaration) with
    name := "Ledger"
    superClass := some (.named "Book")
    body := [
      .field { (default : FieldDeclaration) with typeRef := .named "Integer", names := ["count", "total"] },
      post [.called "STATIC"] ⟨"List", [.named "Entry"]⟩,
      .constructor { (default : ConstructorDeclaration) with name := "Ledger" },
      post [.called "static"] (.named "Entry"),
      post [] (.named "Entry"),
      .interface { (default : InterfaceDeclaration) with name := "Posting" },
      .innerClass { (default : ClassDeclaration) with name := "Page" },
      .property { (default : PropertyDeclaration) with typeRef := .named "Double", name := "count" }] }

theorem class_of_ledger : ∃ c, ClassType.ofDeclaration ledger = .ok c ∧ ledger.Becomes c ∧
    (c.staticMethods.get "post").map (·.parameterTypes) = [["List<Entry>"], ["Entry"]] ∧
    (c.instanceMethods.get "post").map (·.parameterTypes) = [["Entry"]] ∧
    c.fields = [("count", .double), ("total", .integer)] :=
  ⟨_, rfl, (class_of_declaration ledger).1 _ rfl, rfl, rfl, rfl⟩

end ClassDeclaration

end ObjectStore
