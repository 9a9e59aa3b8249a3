import ObjectStore.Proofs.Class.Hiding
import ObjectStore.Proofs.Class.Transcriptions

/-!
# Signatures of declared methods

A type is displayed as its name, with its arguments in angle brackets and commas between them. Names are not quoted. But as long as no name has one of these three characters, the text shows where each name ends and each list of arguments with it, so types that are displayed alike are the same. Overloads are told apart by the texts of their types, hence for such names by the types themselves.
-/

namespace ObjectStore

namespace TypeRef

/-! ### Names and marks -/

mutual

/-- The names in a type, at every depth. -/
def names : TypeRef → List String
  | ⟨name, arguments⟩ => name :: namesOfAll arguments

def namesOfAll : List TypeRef → List String
  | [] => []
  | type :: rest => type.names ++ namesOfAll rest

end

/-- The characters around and between arguments. -/
def marks : List Char := ['<', '>', ',']

/-- No name in the type, at any depth, has one of the marks. -/
def Plain (type : TypeRef) : Prop :=
  ∀ name ∈ type.names, ∀ c ∈ name.toList, c ∉ marks

def AllPlain (types : List TypeRef) : Prop :=
  ∀ name ∈ namesOfAll types, ∀ c ∈ name.toList, c ∉ marks

instance (type : TypeRef) : Decidable type.Plain :=
  decidable_of_iff (type.names.all fun name => name.toList.all (· ∉ marks)) (by simp [Plain])

variable {type other : TypeRef} {types others : List TypeRef} {name : String} {arguments : List TypeRef}

theorem plain_iff : Plain ⟨name, arguments⟩ ↔ (∀ c ∈ name.toList, c ∉ marks) ∧ AllPlain arguments := by
  rw [Plain, names, List.forall_mem_cons, ← AllPlain]

theorem allPlain_cons_iff : AllPlain (type :: types) ↔ type.Plain ∧ AllPlain types := by
  rw [AllPlain, namesOfAll, List.forall_mem_append, ← Plain, ← AllPlain]

/-! ### Types and the text after them -/

/-- What comes after a name, if anything does, begins with a mark. -/
def EndsName (rest : List Char) : Prop := ∀ c ∈ rest.head?, c ∈ marks

/-- What comes after a type, if anything does, begins with what ends an argument. -/
def EndsType (rest : List Char) : Prop := ∀ c ∈ rest.head?, c = '>' ∨ c = ','

theorem name_append_inj {cs ds rest remaining : List Char} (hcs : ∀ c ∈ cs, c ∉ marks) (hds : ∀ d ∈ ds, d ∉ marks)
    (hrest : EndsName rest) (hremaining : EndsName remaining) (h : cs ++ rest = ds ++ remaining) : cs = ds ∧ rest = remaining := by
  induction cs generalizing ds with
  | nil =>
    cases ds with
    | nil => exact ⟨rfl, h⟩
    | cons d ds =>
      rw [List.nil_append] at h
      rw [h] at hrest
      exact absurd (hrest d rfl) (hds d List.mem_cons_self)
  | cons c cs ih =>
    obtain ⟨hc, hcs⟩ := List.forall_mem_cons.1 hcs
    cases ds with
    | nil =>
      rw [List.nil_append] at h
      rw [← h] at hremaining
      exact absurd (hremaining c rfl) hc
    | cons d ds =>
      obtain ⟨hsame, htail⟩ := List.cons.inj h
      obtain ⟨hname, hafter⟩ := ih hcs (List.forall_mem_cons.1 hds).2 htail
      exact ⟨by rw [hsame, hname], hafter⟩

theorem toList_displayArguments_cons (type : TypeRef) (types : List TypeRef) (rest : List Char) :
    (displayArguments (type :: types)).toList ++ rest =
      '<' :: (type.display.toList ++ ((displayRest types).toList ++ '>' :: rest)) := by
  simp [displayArguments]

theorem toList_displayRest_cons (type : TypeRef) (types : List TypeRef) (rest : List Char) :
    (displayRest (type :: types)).toList ++ rest =
      ',' :: ' ' :: (type.display.toList ++ ((displayRest types).toList ++ rest)) := by
  simp [displayRest]

theorem endsName_arguments (types : List TypeRef) {rest : List Char} (hrest : EndsType rest) :
    EndsName ((displayArguments types).toList ++ rest) := by
  cases types with
  | nil =>
    intro c hc
    rcases hrest c hc with rfl | rfl <;> decide
  | cons type types =>
    rw [toList_displayArguments_cons]
    rintro c ⟨⟩
    decide

theorem endsType_rest (types : List TypeRef) (rest : List Char) :
    EndsType ((displayRest types).toList ++ '>' :: rest) := by
  cases types with
  | nil =>
    rintro c ⟨⟩
    exact .inl rfl
  | cons type types =>
    rw [toList_displayRest_cons]
    rintro c ⟨⟩
    exact .inr rfl

/-- Arguments that follow a name alike also follow another argument alike. -/
theorem displayRest_of_displayArguments {rest remaining : List Char} (hrest : EndsType rest) (hremaining : EndsType remaining)
    (h : (displayArguments types).toList ++ rest = (displayArguments others).toList ++ remaining) :
    (displayRest types).toList ++ '>' :: rest = (displayRest others).toList ++ '>' :: remaining := by
  cases types with
  | nil =>
    cases others with
    | nil => exact congrArg (List.cons '>') h
    | cons other others =>
      -- Without arguments there is no bracket after the name.
      rw [toList_displayArguments_cons] at h
      change rest = _ at h
      rw [h] at hrest
      exact absurd (hrest '<' rfl) (by decide)
  | cons type types =>
    rw [toList_displayArguments_cons] at h
    cases others with
    | nil =>
      change _ = remaining at h
      rw [← h] at hremaining
      exact absurd (hremaining '<' rfl) (by decide)
    | cons other others =>
      rw [toList_displayArguments_cons, List.cons_inj_right] at h
      rw [toList_displayRest_cons, toList_displayRest_cons, h]

mutual

-- What comes after the type is part of the statement, as the type may stand among the arguments of another one.
/-- The text of a type shows the type and where it ends. -/
theorem display_append_inj (type other : TypeRef) {rest remaining : List Char} (htype : type.Plain) (hother : other.Plain)
    (hrest : EndsType rest) (hremaining : EndsType remaining) (h : type.display.toList ++ rest = other.display.toList ++ remaining) :
    type = other ∧ rest = remaining := by
  obtain ⟨name, arguments⟩ := type
  obtain ⟨name', arguments'⟩ := other
  rw [plain_iff] at htype hother
  rw [display, display, String.toList_append, String.toList_append, List.append_assoc, List.append_assoc] at h
  obtain ⟨hname, htail⟩ := name_append_inj htype.1 hother.1 (endsName_arguments arguments hrest)
    (endsName_arguments arguments' hremaining) h
  obtain ⟨harguments, hafter⟩ := displayRest_append_inj arguments arguments' htype.2 hother.2
    (displayRest_of_displayArguments hrest hremaining htail)
  exact ⟨by rw [String.toList_inj.1 hname, harguments], hafter⟩

theorem displayRest_append_inj (types others : List TypeRef) {rest remaining : List Char} (htypes : AllPlain types)
    (hothers : AllPlain others) (h : (displayRest types).toList ++ '>' :: rest = (displayRest others).toList ++ '>' :: remaining) :
    types = others ∧ rest = remaining := by
  cases types with
  | nil =>
    cases others with
    | nil => exact ⟨rfl, (List.cons.inj h).2⟩
    | cons other others =>
      rw [toList_displayRest_cons] at h
      exact absurd (List.cons.inj h).1 (by decide)
  | cons type types =>
    rw [toList_displayRest_cons] at h
    cases others with
    | nil => exact absurd (List.cons.inj h).1 (by decide)
    | cons other others =>
      rw [allPlain_cons_iff] at htypes hothers
      rw [toList_displayRest_cons, List.cons_inj_right, List.cons_inj_right] at h
      obtain ⟨hfirst, hmore⟩ := display_append_inj type other htypes.1 hothers.1 (endsType_rest types rest)
        (endsType_rest others remaining) h
      obtain ⟨hothers, hafter⟩ := displayRest_append_inj types others htypes.2 hothers.2 hmore
      exact ⟨by rw [hfirst, hothers], hafter⟩

end

theorem display_inj (htype : type.Plain) (hother : other.Plain) : type.display = other.display ↔ type = other := by
  constructor
  · intro h
    have hends : EndsType [] := fun c hc => by cases hc
    exact (display_append_inj type other htype hother hends hends (by rw [h])).1
  · exact congrArg display

/-- A name with marks can be taken for a type with arguments. -/
example : display ⟨"Map", [.named "Id", .named "Account"]⟩ = display (.named "Map<Id, Account>") := rfl

theorem map_display_inj (htypes : ∀ type ∈ types, type.Plain) (hothers : ∀ other ∈ others, other.Plain) :
    types.map display = others.map display ↔ types = others := by
  induction types generalizing others with
  | nil => cases others <;> simp
  | cons type types ih =>
    cases others with
    | nil => simp
    | cons other others =>
      rw [List.forall_mem_cons] at htypes hothers
      rw [List.map_cons, List.map_cons, List.cons.injEq, List.cons.injEq, display_inj htypes.1 hothers.1, ih htypes.2 hothers.2]

end TypeRef

/-! ### Declared methods -/

namespace MethodDeclaration

/-- The types of the parameters. -/
def types (d : MethodDeclaration) : List TypeRef := d.parameters.map (·.typeRef)

/-- The types of the parameters are known by their texts. -/
def PlainlyTyped (d : MethodDeclaration) : Prop := ∀ type ∈ d.types, type.Plain

instance (d : MethodDeclaration) : Decidable d.PlainlyTyped :=
  inferInstanceAs (Decidable (∀ type ∈ d.types, type.Plain))

theorem sameSignature_iff {d other : MethodDeclaration} (hd : d.PlainlyTyped) (hother : other.PlainlyTyped) :
    d.SameSignature other ↔ other.name = d.name ∧ other.types = d.types := by
  rw [← TypeRef.map_display_inj hother hd, types, types, List.map_map, List.map_map]
  rfl

end MethodDeclaration

namespace Additions

/-- The additions of declared methods. -/
def ofDeclarations (calls : List (String × MethodDeclaration)) : List (String × Method) :=
  calls.map fun call => (call.1, .ofDeclaration call.2)

/-- A declared method is refused exactly if one that was declared before, taken or not, has its signature. -/
theorem add_declared_eq_error_iff (calls : List (String × MethodDeclaration)) (className : String) (d : MethodDeclaration) :
    (∃ e later, (run (ofDeclarations calls)).table.add className (.ofDeclaration d) = (.error e, later)) ↔
      ∃ call ∈ calls, d.SameSignature call.2 := by
  have htook := run_took (ofDeclarations calls)
  rw [(run_holds (ofDeclarations calls)).add_eq_error_iff]
  constructor
  · rintro ⟨held, hheld, hrepeats⟩
    obtain ⟨call, hcall, rfl⟩ := htook.added held hheld
    obtain ⟨declared, hdeclared, rfl⟩ := List.mem_map.1 hcall
    exact ⟨declared, hdeclared, hrepeats⟩
  · rintro ⟨call, hcall, hsame⟩
    obtain ⟨held, hheld, hrepeats⟩ := htook.kept _ (List.mem_map_of_mem hcall)
    exact ⟨held, hheld, hrepeats.1.trans hsame.1, hrepeats.2.trans hsame.2⟩

/-- Types whose names have no angle brackets and commas are the same if they are displayed alike. Hence a declared method with such types is refused exactly if an earlier one of its name has the very same types of parameters. -/
theorem types_told_by_texts :
    (∀ type other : TypeRef, type.Plain → other.Plain → type.display = other.display → type = other) ∧
    ∀ (calls : List (String × MethodDeclaration)) (className : String) (d : MethodDeclaration),
      (∀ call ∈ calls, call.2.PlainlyTyped) → d.PlainlyTyped →
      ((∃ e later, (run (ofDeclarations calls)).table.add className (.ofDeclaration d) = (.error e, later)) ↔
        ∃ call ∈ calls, call.2.name = d.name ∧ call.2.types = d.types) := by
  refine ⟨fun type other htype hother => (TypeRef.display_inj htype hother).1, fun calls className d hcalls hd => ?_⟩
  rw [add_declared_eq_error_iff]
  refine exists_congr fun call => and_congr_right fun hcall => ?_
  exact MethodDeclaration.sameSignature_iff hd (hcalls call hcall)

/-- Lists by key. -/
def listsByKey : TypeRef := ⟨"Map", [.named "Id", ⟨"List", [.named "Account"]⟩]⟩

/-- The same names, with the brackets in other places. -/
def recordsByList : TypeRef := ⟨"Map", [⟨"List", [.named "Id"]⟩, .named "Account"]⟩

/-- A method that takes values of a type. -/
def merging (type : TypeRef) : MethodDeclaration :=
  { (default : MethodDeclaration) with name := "merge", parameters := [⟨type, "values"⟩] }

/-- The types are displayed differently, so that methods can take both, and a second method for one of them is refused. -/
theorem merging_told_by_text :
    listsByKey.Plain ∧ recordsByList.Plain ∧ listsByKey.display ≠ recordsByList.display ∧
    (¬ ∃ e later, (run (ofDeclarations [("Sheet", merging listsByKey)])).table.add "Sheet" (.ofDeclaration (merging recordsByList)) =
      (.error e, later)) ∧
    ∃ e later, (run (ofDeclarations [("Sheet", merging listsByKey), ("Sheet", merging recordsByList)])).table.add "Sheet"
      (.ofDeclaration (merging listsByKey)) = (.error e, later) := by
  obtain ⟨hinjective, hrefused⟩ := types_told_by_texts
  have hplain : listsByKey.Plain ∧ recordsByList.Plain := by decide
  have hapart : listsByKey ≠ recordsByList := by simp [listsByKey, recordsByList, TypeRef.named]
  refine ⟨hplain.1, hplain.2, mt (hinjective _ _ hplain.1 hplain.2) hapart, ?_, ?_⟩
  · rw [hrefused _ _ _ (by decide) (by decide)]
    rintro ⟨call, hcall, -, htypes⟩
    rw [List.mem_singleton.1 hcall] at htypes
    exact hapart (List.cons.inj htypes).1
  · rw [hrefused _ _ _ (by decide) (by decide)]
    exact ⟨_, List.mem_cons_self, rfl, rfl⟩

end Additions

end ObjectStore
