import ObjectStore.Proofs.Class.Refusals
import ObjectStore.Proofs.Class.Transcriptions

/-!
# Nested classes

A declaration stands for a nest of classes, each of which is known by the names on the way to it, joined by dots. All of them are registered or the declaration is refused, and it is refused only if one of them declares a method twice or if a name is not new: one that the registry has, or one that two classes of the nest have, as names may have dots in them. Interfaces are skipped wherever they stand.
-/

namespace ObjectStore

namespace ClassDeclaration

mutual

/-- The classes of a nest as they are written, each with the names of the classes around it and its own. -/
def nest (path : List String) : ClassDeclaration → List (List String × ClassDeclaration)
  | d@⟨name, _, _, _, body, _⟩ => (path ++ [name], d) :: nestInside (path ++ [name]) body

def nestInside (path : List String) : List Declaration → List (List String × ClassDeclaration)
  | [] => []
  | .innerClass d :: rest => nest path d ++ nestInside path rest
  | _ :: rest => nestInside path rest

end

/-- The name of a class in its nest. -/
def dotted (path : List String) : String := ".".intercalate path

mutual

/-- The declaration without the interfaces in it, at any depth. -/
def withoutInterfaces : ClassDeclaration → ClassDeclaration
  | ⟨name, modifiers, superClass, implemented, body, span⟩ =>
    ⟨name, modifiers, superClass, implemented, membersWithoutInterfaces body, span⟩

def membersWithoutInterfaces : List Declaration → List Declaration
  | [] => []
  | .interface _ :: rest => membersWithoutInterfaces rest
  | .innerClass d :: rest => .innerClass (withoutInterfaces d) :: membersWithoutInterfaces rest
  | member :: rest => member :: membersWithoutInterfaces rest

end

theorem foldlM_membersWithoutInterfaces (body : List Declaration) (c : ClassType) :
    (membersWithoutInterfaces body).foldlM ClassType.withMember c = body.foldlM ClassType.withMember c := by
  induction body generalizing c with
  | nil => rfl
  | cons member rest ih =>
    cases member with
    | interface d =>
      rw [membersWithoutInterfaces, ih]
      rfl
    | innerClass d =>
      rw [membersWithoutInterfaces, List.foldlM_cons, List.foldlM_cons]
      exact bind_congr ih
    | _ =>
      rw [membersWithoutInterfaces, List.foldlM_cons, List.foldlM_cons]
      · exact bind_congr ih
      · intro d hd
        cases hd
      · intro d hd
        cases hd

theorem ofDeclaration_withoutInterfaces (d : ClassDeclaration) :
    ClassType.ofDeclaration d.withoutInterfaces = ClassType.ofDeclaration d := by
  obtain ⟨name, modifiers, superClass, implemented, body, span⟩ := d
  rw [withoutInterfaces, ClassType.ofDeclaration, ClassType.ofDeclaration]
  exact foldlM_membersWithoutInterfaces body _

end ClassDeclaration

open ClassDeclaration

namespace Registry

variable {registry later : Registry} {d : ClassDeclaration} {c : ClassType}

/-! ### Names in a nest -/

/-- The class around those at a path, if there is one. -/
def around (path : List String) : Option String :=
  if path = [] then none else some (dotted path)

theorem qualify_around (path : List String) (name : String) : qualify (around path) name = dotted (path ++ [name]) := by
  rw [around]
  split
  · next hpath => rw [hpath, List.nil_append, dotted, String.intercalate_singleton, qualify]
  · next hpath =>
    rw [qualify, dotted, dotted, String.intercalate_append_of_ne_nil hpath (List.cons_ne_nil _ _), String.intercalate_singleton]

theorem declared_eq_nest (d : ClassDeclaration) :
    declared none d = (nest [] d).map fun entry => (dotted entry.1, entry.2) := by
  -- Inside of a class the path is never empty, and there the name around is that of the path.
  refine nest.induct
    (fun path d => declared (around path) d = (nest path d).map fun entry => (dotted entry.1, entry.2))
    (fun path body => path ≠ [] → declaredInside (dotted path) body =
      (nestInside path body).map fun entry => (dotted entry.1, entry.2)) ?_ ?_ ?_ ?_ [] d
  · intro path name modifiers superClass implemented body span ih
    rw [declared, nest, List.map_cons, qualify_around, ih (List.append_ne_nil_of_right_ne_nil _ (List.cons_ne_nil _ _))]
  · intro path _
    rw [declaredInside, nestInside, List.map_nil]
  · intro path inner rest ihclass ihrest hpath
    have haround : around path = some (dotted path) := if_neg hpath
    rw [declaredInside, nestInside, List.map_append, ← haround, ihclass, ihrest hpath]
  · intro path head rest hother ih hpath
    rw [declaredInside, nestInside, ih hpath]
    · exact hother
    · exact hother

/-! ### What is new in a registry -/

theorem lookup?_of_fresh {added : List ClassType} (hclasses : later.classes = registry.classes ++ added)
    (hnodup : (added.map ClassType.name).Nodup) (hfresh : ∀ c ∈ added, c.name ∉ registry.names) (hc : c ∈ added) :
    later.lookup? c.name = some c := by
  have hbuilt : Built ⟨added⟩ := built_iff.2 hnodup
  have hfound : added.find? (fun other => other.name == c.name) = some c := hbuilt.lookup?_eq_some_iff.2 ⟨hc, rfl⟩
  have hnone : registry.classes.find? (fun other => other.name == c.name) = none := by
    rw [List.find?_eq_none]
    intro other hother
    rw [beq_iff_eq]
    intro hname
    exact hfresh c hc (hname ▸ List.mem_map_of_mem hother)
  rw [lookup?, hclasses, List.find?_append, hnone, Option.none_or, hfound]

theorem transcribe_isOk_iff {entry : String × ClassDeclaration} : (∃ c, transcribe entry = .ok c) ↔ ¬ entry.2.RepeatsMethod := by
  rw [← ofDeclaration_isOk_iff, transcribe]
  cases ClassType.ofDeclaration entry.2 <;> simp [Except.map]

theorem names_of_transcribed {entries : List (String × ClassDeclaration)} {added : List ClassType}
    (h : entries.mapM transcribe = .ok added) : added.map ClassType.name = entries.map Prod.fst := by
  have hclasses := forall₂_of_mapM h
  clear h
  induction hclasses with
  | nil => rfl
  | cons hfirst _ ih => rw [List.map_cons, List.map_cons, transcribe_eq_ok_name hfirst, ih]

/-! ### What is registered -/

/-- The declaration can be registered: none of its classes declares a method twice, and their names are new and distinct. -/
structure Admits (registry : Registry) (d : ClassDeclaration) : Prop where
  methods : ∀ entry ∈ nest [] d, ¬ entry.2.RepeatsMethod
  distinct : ((nest [] d).map fun entry => dotted entry.1).Nodup
  free : ∀ entry ∈ nest [] d, dotted entry.1 ∉ registry.names

/-- The added classes are those of the nest, as they are written, each as its own declaration has it but for the name. They come after what the registry had and are found under their names. -/
structure Nests (registry : Registry) (d : ClassDeclaration) (added : List ClassType) (later : Registry) : Prop where
  classes_eq : later.classes = registry.classes ++ added
  transcribed : List.Forall₂ (fun entry c => ∃ own, ClassType.ofDeclaration entry.2 = .ok own ∧ c = { own with name := dotted entry.1 })
    (nest [] d) added
  found : ∀ c ∈ added, later.lookup? c.name = some c

theorem admits_iff : registry.Admits d ↔ (∀ entry ∈ declared none d, ¬ entry.2.RepeatsMethod) ∧
    ((declared none d).map Prod.fst).Nodup ∧ ∀ entry ∈ declared none d, entry.1 ∉ registry.names := by
  simp only [declared_eq_nest, List.forall_mem_map, List.map_map]
  exact ⟨fun h => ⟨h.methods, h.distinct, h.free⟩, fun h => ⟨h.1, h.2.1, h.2.2⟩⟩

theorem admits_of_registered (h : registry.registerDeclaration d = (.ok c, later)) : registry.Admits d := by
  obtain ⟨inner, hadded, hclasses⟩ := added_of_registerDeclaration h
  have hgrown := grown_of_registerDeclaration registry d
  rw [h] at hgrown
  obtain ⟨added, hlater, hnodup, hfresh⟩ := hgrown.fresh
  obtain rfl : added = c :: inner := List.append_cancel_left (hlater.symm.trans hclasses)
  have hnames := names_of_transcribed hadded
  have hstored : ∀ entry ∈ declared none d, ∃ stored ∈ c :: inner, transcribe entry = .ok stored :=
    fun _ => exists_of_mem_forall₂ (forall₂_of_mapM hadded).flip
  refine admits_iff.2 ⟨fun entry hentry => ?_, hnames ▸ hnodup, fun entry hentry => ?_⟩
  · obtain ⟨stored, -, hstored⟩ := hstored entry hentry
    exact transcribe_isOk_iff.1 ⟨stored, hstored⟩
  · obtain ⟨stored, hmem, hstored⟩ := hstored entry hentry
    rw [← transcribe_eq_ok_name hstored]
    exact hfresh stored hmem

/-- No class of the nest is refused where all of them can be registered. -/
theorem Admits.not_stops (h : registry.Admits d) {taken : List (String × ClassDeclaration)} {e : CompileError} :
    ¬ registry.Stops (declared none d) taken e later := by
  rintro ⟨⟨added, hadded, hclasses⟩, entry, rest, hentries, hrefused⟩
  obtain ⟨hmethods, hdistinct, hfree⟩ := admits_iff.1 h
  have hentry : entry ∈ declared none d := hentries ▸ List.mem_append_right _ List.mem_cons_self
  obtain ⟨c, hc⟩ := transcribe_isOk_iff.2 (hmethods entry hentry)
  rcases hrefused with hrefused | ⟨refused, hrefused, htaken⟩
  · rw [hc] at hrefused
    cases hrefused
  · -- The name would be one of the registry or that of a class before it in the nest.
    have hname : refused.name ∈ later.names := by
      by_contra hnew
      rw [register_eq_ok_iff.2 ⟨hnew, rfl⟩] at htaken
      cases htaken
    rw [transcribe_eq_ok_name hrefused, names, hclasses, List.map_append, names_of_transcribed hadded, List.mem_append] at hname
    rcases hname with hregistry | hbefore
    · exact hfree entry hentry hregistry
    · rw [hentries, List.map_append, List.map_cons, List.nodup_append'] at hdistinct
      exact hdistinct.2.2 hbefore List.mem_cons_self

theorem registerDeclaration_isOk_iff : (∃ c later, registry.registerDeclaration d = (.ok c, later)) ↔ registry.Admits d := by
  constructor
  · rintro ⟨c, later, h⟩
    exact admits_of_registered h
  · intro h
    cases hresult : registry.registerDeclaration d with
    | mk result later =>
      cases result with
      | ok c => exact ⟨c, later, rfl⟩
      | error e =>
        obtain ⟨taken, hstops⟩ := stops_of_registerDeclaration hresult
        exact absurd hstops h.not_stops

theorem nests_of_registered (h : registry.registerDeclaration d = (.ok c, later)) :
    ∃ inner, registry.Nests d (c :: inner) later := by
  obtain ⟨inner, hadded, hclasses⟩ := added_of_registerDeclaration h
  obtain ⟨-, hdistinct, hfree⟩ := admits_iff.1 (admits_of_registered h)
  have hnames := names_of_transcribed hadded
  have htranscribed := forall₂_of_mapM hadded
  refine ⟨inner, hclasses, ?_, fun stored hstored => ?_⟩
  · rw [declared_eq_nest, List.forall₂_map_left_iff] at htranscribed
    refine htranscribed.imp fun entry stored hentry => ?_
    obtain ⟨own, hown, rfl⟩ := map_eq_ok.1 hentry
    exact ⟨own, hown, rfl⟩
  · refine lookup?_of_fresh hclasses (hnames ▸ hdistinct) (fun other hother => ?_) hstored
    obtain ⟨entry, hentry, hname⟩ := List.mem_map.1 (hnames ▸ List.mem_map_of_mem hother)
    rw [← hname]
    exact hfree entry hentry

/-! ### Interfaces -/

theorem registerOne_withoutInterfaces (registry : Registry) (outer : Option String) (d : ClassDeclaration) :
    registry.registerOne outer d.withoutInterfaces = registry.registerOne outer d := by
  rw [registerOne, registerOne, ofDeclaration_withoutInterfaces]
  cases d
  rfl

/-- Interfaces are skipped, at any depth. -/
theorem registerDeclaration_withoutInterfaces (registry : Registry) (d : ClassDeclaration) :
    registry.registerDeclaration d.withoutInterfaces = registry.registerDeclaration d := by
  suffices h : ∀ outer registry, registerWithin outer registry d.withoutInterfaces = registerWithin outer registry d from h none registry
  refine withoutInterfaces.induct
    (fun d => ∀ outer registry, registerWithin outer registry d.withoutInterfaces = registerWithin outer registry d)
    (fun body => ∀ outer registry, registerInner outer registry (membersWithoutInterfaces body) = registerInner outer registry body)
    ?_ ?_ ?_ ?_ ?_ d
  · intro name modifiers superClass implemented body span ih outer registry
    have hone := registry.registerOne_withoutInterfaces outer ⟨name, modifiers, superClass, implemented, body, span⟩
    rw [withoutInterfaces] at hone ⊢
    rw [registerWithin, registerWithin, hone]
    simp only [ih]
  · intro outer registry
    rfl
  · intro interface rest ih outer registry
    rw [membersWithoutInterfaces, ih, registerInner]
    intro inner h
    cases h
  · intro inner rest ihclass ihrest outer registry
    rw [membersWithoutInterfaces, registerInner, registerInner, ihclass]
    simp only [ihrest]
  · intro member rest hinterface hinner ih outer registry
    rw [membersWithoutInterfaces, registerInner, registerInner, ih]
    · exact hinner
    · exact hinner
    · exact hinterface
    · exact hinner

/-- A declaration is registered exactly if no class of its nest declares a method twice and their dotted names are new and distinct. Then the classes of the nest are added under these names, the declared class first. Interfaces make no difference. -/
theorem nest_registered (registry : Registry) (d : ClassDeclaration) :
    ((∃ c later, registry.registerDeclaration d = (.ok c, later)) ↔ registry.Admits d) ∧
    (∀ c later, registry.registerDeclaration d = (.ok c, later) → ∃ inner, registry.Nests d (c :: inner) later) ∧
    registry.registerDeclaration d.withoutInterfaces = registry.registerDeclaration d :=
  ⟨registerDeclaration_isOk_iff, fun _ _ => nests_of_registered, registry.registerDeclaration_withoutInterfaces d⟩

/-- A class of the name with the classes inside of it, and an interface before them. -/
def room (name : String) (inner : List ClassDeclaration) : ClassDeclaration :=
  { (default : ClassDeclaration) with
    name, body := .interface { (default : InterfaceDeclaration) with name := "Furnished" } :: inner.map .innerClass }

/-- An office with a desk that has a lamp, and a class of its own besides. -/
def office (besides : String) : ClassDeclaration :=
  room "Office" [room "Desk" [room "Lamp" []], room besides []]

/-- A class of the registry may be declared again inside of another, as its dotted name is new. A class whose own name has a dot in it can be in the way of a nested one. -/
theorem office_registered :
    (∃ c later, (Registry.mk [ClassType.bare "Desk"]).registerDeclaration (office "Desk.Mat") = (.ok c, later) ∧
      later.names = ["Desk", "Office", "Office.Desk", "Office.Desk.Lamp", "Office.Desk.Mat"] ∧
      ∃ inner, (Registry.mk [ClassType.bare "Desk"]).Nests (office "Desk.Mat") (c :: inner) later) ∧
    ¬ empty.Admits (office "Desk.Lamp") := by
  refine ⟨⟨_, _, rfl, by decide, (nest_registered _ _).2.1 _ _ rfl⟩, fun hadmits => ?_⟩
  obtain ⟨c, later, h⟩ := (nest_registered _ _).1.2 hadmits
  have hrefused : (empty.registerDeclaration (office "Desk.Lamp")).1 = .error (.duplicateClass "Office.Desk.Lamp") := rfl
  rw [h] at hrefused
  cases hrefused

end Registry

end ObjectStore
