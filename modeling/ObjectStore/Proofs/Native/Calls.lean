import ObjectStore.Native.Dispatch
import ObjectStore.Proofs.Class.Hiding
import ObjectStore.Proofs.Class.Transcriptions

/-!
# Calls of declared methods

A parameter is known by how its type is displayed, arguments in angle brackets included, and an argument by the name of its kind alone. So a parameter whose type has arguments takes no value but null, though the name of the type says which kind of value is meant, as it does for fields. A call of a declared method with values of the kinds that it names finds a method exactly if the class has one of the same name and sort that takes the values and has no such parameter.
-/

namespace ObjectStore

/-! ### Types and kinds of values -/

namespace TypeRef

/-- The name of a kind, in any case, stands for the values of this kind, whatever the arguments of the type. -/
def denotes (type : TypeRef) : Value → Bool
  | .string _ => Text.sameName type.name "String"
  | .integer _ => Text.sameName type.name "Integer"
  | .double _ => Text.sameName type.name "Double"
  | .boolean _ => Text.sameName type.name "Boolean"
  | .list _ => Text.sameName type.name "List"
  | .null => false
  | .object _ _ => false

/-- A type that has arguments is displayed with an angle bracket, which no name of a kind has. -/
theorem sameName_display_iff (type : TypeRef) {kind : String} (hkind : '<' ∉ kind.toList.map Char.toLower) :
    Text.sameName type.display kind = true ↔ type.arguments = [] ∧ Text.sameName type.name kind = true := by
  obtain ⟨name, arguments⟩ := type
  cases arguments with
  | nil => simp [display, displayArguments]
  | cons argument rest =>
    simp only [reduceCtorEq, false_and, iff_false]
    intro hsame
    rw [Text.sameName_iff] at hsame
    refine hkind (hsame ▸ ?_)
    simp [display, displayArguments]

end TypeRef

/-- A value of a built-in kind: neither null nor a record. -/
def Value.isBuiltIn : Value → Bool
  | .null => false
  | .object _ _ => false
  | _ => true

theorem TypeRef.isBuiltIn_of_denotes {type : TypeRef} {argument : Value} (h : type.denotes argument = true) :
    argument.isBuiltIn = true := by
  cases argument <;> first | rfl | cases h

theorem TypeRef.denotes_eq (type : TypeRef) {argument : Value} (h : argument.isBuiltIn = true) :
    type.denotes argument = Text.sameName type.name argument.typeName := by
  cases argument <;> first | rfl | cases h

/-- The names of kinds have no angle brackets, and none but null's is that of null. -/
theorem Value.typeName_of_isBuiltIn {argument : Value} (h : argument.isBuiltIn = true) :
    '<' ∉ argument.typeName.toList.map Char.toLower ∧ argument.typeName ≠ "Null" := by
  have hnames : ∀ name ∈ ["String", "Integer", "Double", "Boolean", "List"],
      '<' ∉ name.toList.map Char.toLower ∧ name ≠ "Null" := by decide
  cases argument with
  | null => cases h
  | object className fields => cases h
  | _ => exact hnames _ (by simp [typeName])

/-- Whether a parameter takes an argument that is neither null nor a record: its type has no arguments, and the name denotes the argument or any value. -/
def Parameter.takes (parameter : Parameter) (argument : Value) : Bool :=
  parameter.typeRef.arguments.isEmpty &&
    (parameter.typeRef.denotes argument || Text.sameName parameter.typeRef.name "Object")

theorem Parameter.fits_iff_takes (parameter : Parameter) {argument : Value} (h : argument.isBuiltIn = true) :
    Method.fits parameter.typeRef.display argument.typeName = true ↔ parameter.takes argument = true := by
  obtain ⟨hname, hnull⟩ := Value.typeName_of_isBuiltIn h
  rw [Method.fits_iff, TypeRef.sameName_display_iff _ hname, TypeRef.sameName_display_iff _ (by decide), takes,
    Bool.and_eq_true, Bool.or_eq_true, List.isEmpty_iff, TypeRef.denotes_eq _ h, and_or_left]
  simp only [hnull, or_false]

/-- The type of every parameter denotes the argument in its place, and there are as many. -/
def MethodDeclaration.Denotes (d : MethodDeclaration) (arguments : List Value) : Prop :=
  List.Forall₂ (fun parameter argument => parameter.typeRef.denotes argument = true) d.parameters arguments

/-- Every parameter takes the argument in its place, and there are as many. -/
def MethodDeclaration.Takes (d : MethodDeclaration) (arguments : List Value) : Prop :=
  List.Forall₂ (fun parameter argument => parameter.takes argument = true) d.parameters arguments

namespace MethodDeclaration

variable {d : MethodDeclaration} {arguments : List Value}

theorem accepts_iff_takes (hbuiltIn : ∀ argument ∈ arguments, argument.isBuiltIn = true) :
    (Method.ofDeclaration d).accepts (arguments.map Value.typeName) = true ↔ d.Takes arguments := by
  have htypes : (Method.ofDeclaration d).parameterTypes = d.parameters.map (·.typeRef.display) := rfl
  rw [Method.accepts, htypes, Method.fitsAll_iff, List.forall₂_map_left_iff, List.forall₂_map_right_iff, Takes]
  exact forall₂_congr_of_mem fun argument hargument parameter => parameter.fits_iff_takes (hbuiltIn argument hargument)

/-- A method takes arguments of the kinds that its types name exactly if none of the types has arguments. -/
theorem takes_iff (hkinds : d.Denotes arguments) :
    d.Takes arguments ↔ ∀ parameter ∈ d.parameters, parameter.typeRef.arguments = [] := by
  rw [Denotes] at hkinds
  rw [Takes]
  generalize d.parameters = parameters at hkinds
  induction hkinds with
  | nil => simp
  | @cons parameter argument parameters arguments hkind _ ih =>
    have hown : parameter.takes argument = true ↔ parameter.typeRef.arguments = [] := by
      rw [Parameter.takes, hkind, Bool.true_or, Bool.and_true, List.isEmpty_iff]
    rw [List.forall₂_cons, ih, hown, List.forall_mem_cons]

end MethodDeclaration

/-! ### Calls -/

variable {σ : Type}

namespace ClassType

/-- The call of a method under its name: of the class if the method is static, and else on a value. -/
def callOf (store : Store σ) (c : ClassType) (m : MethodDeclaration) (receiver : Value) (arguments : List Value)
    (context : Context) (world : World σ) : Reply σ :=
  if m.Static then c.invokeStatic store m.name arguments context world
  else c.invokeInstance store receiver m.name arguments context world

end ClassType

/-- The call found no method. -/
def Reply.NotFound (reply : Reply σ) : Prop :=
  ∃ className name signature, reply.answer = .error (.lookup (.noSuchMethod className name signature))

open Declaration

/-- The methods of a declaration that a call of one of them can go to: those of its name and sort, itself included. -/
def ClassDeclaration.overloads (d : ClassDeclaration) (m : MethodDeclaration) : List MethodDeclaration :=
  (methodsOf d.body).filter fun other => (other.Static ↔ m.Static) ∧ other.name = m.name

namespace ClassType

variable {c : ClassType} {d : ClassDeclaration} {m : MethodDeclaration}

/-- A call in a table of declared methods finds none exactly if none accepts the types of the arguments. A method that is found is handed back or has no body. -/
theorem invokeIn_notFound_iff (store : Store σ) {table : MethodTable} {name : String} {methods : List MethodDeclaration}
    (hget : table.get name = methods.map .ofDeclaration) (call : Invocation) (world : World σ) :
    (c.invokeIn store table name call world).NotFound ↔
      ∀ other ∈ methods, ¬ (Method.ofDeclaration other).accepts (call.arguments.map Value.typeName) = true := by
  rw [invokeIn, resolveIn, MethodTable.resolve?, hget]
  cases hfound : (methods.map Method.ofDeclaration).find? (·.accepts (call.arguments.map Value.typeName)) with
  | none =>
    rw [List.find?_eq_none, List.forall_mem_map] at hfound
    exact iff_of_true ⟨_, _, _, rfl⟩ hfound
  | some found =>
    obtain ⟨other, hother, rfl⟩ := List.mem_map.1 (List.mem_of_find?_eq_some hfound)
    have haccepts := List.find?_some hfound
    refine iff_of_false ?_ fun hnone => hnone other hother haccepts
    rintro ⟨className, name, signature, hanswer⟩
    have hbody : (Method.ofDeclaration other).body = other.body.map .interpreted := rfl
    dsimp only at hanswer
    rw [hbody] at hanswer
    cases hblock : other.body with
    | none =>
      rw [hblock] at hanswer
      cases hanswer
    | some block =>
      rw [hblock] at hanswer
      cases hanswer

theorem callOf_notFound_iff (hc : ofDeclaration d = .ok c) (store : Store σ) (m : MethodDeclaration) (receiver : Value)
    (arguments : List Value) (context : Context) (world : World σ) :
    (c.callOf store m receiver arguments context world).NotFound ↔
      ∀ other ∈ d.overloads m, ¬ (Method.ofDeclaration other).accepts (arguments.map Value.typeName) = true := by
  rcases ofDeclaration_cases d with ⟨⟨e, herror⟩, -⟩ | ⟨-, later, hlater, hafter⟩
  · rw [herror] at hc
    cases hc
  · obtain rfl : later = c := Except.ok.inj (hlater.symm.trans hc)
    rw [callOf, ClassDeclaration.overloads]
    by_cases hstatic : m.Static
    · rw [if_pos hstatic, invokeStatic]
      simp only [hstatic, iff_true]
      exact invokeIn_notFound_iff store (ClassDeclaration.get_of_holds hafter.sorts.statics m.name) _ world
    · rw [if_neg hstatic, invokeInstance]
      simp only [hstatic, iff_false]
      exact invokeIn_notFound_iff store (ClassDeclaration.get_of_holds hafter.sorts.instances m.name) _ world

end ClassType

namespace ClassDeclaration

variable {d : ClassDeclaration} {c : ClassType} {m : MethodDeclaration} {arguments : List Value}

/-- A call of a declared method, with values of the kinds that the names of its types denote, finds a method exactly if the class has one of the same name and sort that takes them. The method itself is one of these, and it takes them exactly if none of its types has arguments. -/
theorem call_found_iff (hc : ClassType.ofDeclaration d = .ok c) (hm : m ∈ methodsOf d.body)
    (hkinds : m.Denotes arguments) (store : Store σ) (receiver : Value) (context : Context) (world : World σ) :
    (¬ (c.callOf store m receiver arguments context world).NotFound ↔ ∃ other ∈ d.overloads m, other.Takes arguments) ∧
      m ∈ d.overloads m ∧
      (m.Takes arguments ↔ ∀ parameter ∈ m.parameters, parameter.typeRef.arguments = []) := by
  have hbuiltIn : ∀ argument ∈ arguments, argument.isBuiltIn = true := by
    intro argument hargument
    obtain ⟨parameter, -, hdenotes⟩ := exists_of_mem_forall₂ hkinds hargument
    exact TypeRef.isBuiltIn_of_denotes hdenotes
  refine ⟨?_, List.mem_filter.2 ⟨hm, by simp⟩, MethodDeclaration.takes_iff hkinds⟩
  rw [ClassType.callOf_notFound_iff hc]
  simp only [MethodDeclaration.accepts_iff_takes hbuiltIn, not_forall, not_not, exists_prop]

/-- A static method that adds up a list of numbers. -/
def sumOf (type : TypeRef) (rest : List Parameter) : MethodDeclaration where
  name := "sum"
  modifiers := [.called "static"]
  returnType := none
  parameters := ⟨type, "numbers"⟩ :: rest
  body := some ⟨.unknown⟩
  span := .unknown

/-- The sum of a list of integers, and that of any list under a label. -/
def sums : ClassDeclaration :=
  ⟨"Sums", [], none, [],
    [.method (sumOf ⟨"List", [.named "Integer"]⟩ []), .method (sumOf (.named "list") [⟨.named "STRING", "label"⟩])], .unknown⟩

theorem labelled_sum_found : ∃ c, ClassType.ofDeclaration sums = .ok c ∧
    sumOf (.named "list") [⟨.named "STRING", "label"⟩] ∈ methodsOf sums.body ∧
    (sumOf (.named "list") [⟨.named "STRING", "label"⟩]).Denotes [.list [.integer 1], .string "total"] ∧
    ∀ (store : Store Unit) (world : World Unit), ¬ (c.callOf store (sumOf (.named "list") [⟨.named "STRING", "label"⟩])
      .null [.list [.integer 1], .string "total"] [] world).NotFound := by
  have hc : ClassType.ofDeclaration sums = .ok _ := rfl
  have hm : sumOf (.named "list") [⟨.named "STRING", "label"⟩] ∈ methodsOf sums.body :=
    List.mem_cons_of_mem _ List.mem_cons_self
  have hkinds : (sumOf (.named "list") [⟨.named "STRING", "label"⟩]).Denotes [.list [.integer 1], .string "total"] :=
    .cons rfl (.cons rfl .nil)
  refine ⟨_, hc, hm, hkinds, fun store world => ?_⟩
  obtain ⟨hfound, hown, htakes⟩ := call_found_iff hc hm hkinds store .null [] world
  exact hfound.2 ⟨_, hown, htakes.2 (by decide)⟩

/-- The sum of a list of integers, called with such a list, is not found. -/
theorem sum_of_integers_not_found : ∃ c, ClassType.ofDeclaration sums = .ok c ∧
    sumOf ⟨"List", [.named "Integer"]⟩ [] ∈ methodsOf sums.body ∧
    (sumOf ⟨"List", [.named "Integer"]⟩ []).Denotes [.list [.integer 1]] ∧
    ∀ (store : Store Unit) (world : World Unit),
      (c.callOf store (sumOf ⟨"List", [.named "Integer"]⟩ []) .null [.list [.integer 1]] [] world).answer =
        .error (.lookup (.noSuchMethod "Sums" "sum" "List")) :=
  ⟨_, rfl, List.mem_cons_self, .cons rfl .nil, fun _ _ => rfl⟩

end ClassDeclaration

end ObjectStore
