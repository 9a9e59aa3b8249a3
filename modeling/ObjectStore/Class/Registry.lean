import ObjectStore.Class.Basic

/-!
# Registries of classes

A registry is a list of classes with different names. It only grows. A class declaration registers the class and then, in the order of the body, its inner classes under names that start with the name of the class around them. When one of them fails, those before it have been registered.
-/

namespace ObjectStore

structure Registry where
  classes : List ClassType

namespace Registry

def empty : Registry := ⟨[]⟩

def names (registry : Registry) : List String :=
  registry.classes.map ClassType.name

def lookup? (registry : Registry) (name : String) : Option ClassType :=
  registry.classes.find? fun c => c.name == name

def contains (registry : Registry) (name : String) : Bool :=
  (registry.lookup? name).isSome

def resolve (registry : Registry) (name : String) : Except CompileError ClassType :=
  match registry.lookup? name with
  | some c => .ok c
  | none => .error (.unknownClass name)

/-- The class that a relation of a path leads to. -/
def resolveRelation (registry : Registry) (relation path : String) : Except CompileError ClassType :=
  match registry.lookup? relation with
  | some c => .ok c
  | none => .error (.unknownRelation relation path)

/-- A record of a class, without fields. -/
def create (registry : Registry) (name : String) : Except CompileError Record :=
  (registry.resolve name).map fun c => Record.empty c.name

def register (registry : Registry) (c : ClassType) : Except CompileError Registry :=
  if registry.contains c.name then .error (.duplicateClass c.name) else .ok ⟨registry.classes ++ [c]⟩

/-- The name of a class inside of another. -/
def qualify (outer : Option String) (name : String) : String :=
  match outer with
  | some outer => outer ++ "." ++ name
  | none => name

/-- A declared class, renamed to its place in the class around it, and the registry that holds it. -/
def registerOne (registry : Registry) (outer : Option String) (d : ClassDeclaration) :
    Except CompileError (ClassType × Registry) := do
  let declared ← ClassType.ofDeclaration d
  let c := { declared with name := qualify outer d.name }
  let registry ← registry.register c
  .ok (c, registry)

mutual

/-- Registers a class and its inner classes. The registry is that after the last registration that succeeded. -/
def registerWithin (outer : Option String) (registry : Registry) :
    ClassDeclaration → Except CompileError ClassType × Registry
  | d@⟨_, _, _, _, body, _⟩ =>
    match registry.registerOne outer d with
    | .error e => (.error e, registry)
    | .ok (c, registry) =>
      match registerInner c.name registry body with
      | (.error e, registry) => (.error e, registry)
      | (.ok (), registry) => (.ok c, registry)

def registerInner (outer : String) (registry : Registry) : List Declaration → Except CompileError Unit × Registry
  | [] => (.ok (), registry)
  | .innerClass d :: rest =>
    match registerWithin (some outer) registry d with
    | (.error e, registry) => (.error e, registry)
    | (.ok _, registry) => registerInner outer registry rest
  | _ :: rest => registerInner outer registry rest

end

def registerDeclaration (registry : Registry) (d : ClassDeclaration) : Except CompileError ClassType × Registry :=
  registerWithin none registry d

end Registry

end ObjectStore
