import ObjectStore.Query.Basic

/-!
# Declarations of classes and their members

A class body is a list of methods, fields, constructors, properties, inner classes and interfaces. Modifiers are compared ignoring the case of ASCII letters. Bodies of methods are kept as source ranges only.
-/

namespace ObjectStore

structure Modifier where
  name : String
  span : Span
  deriving DecidableEq, Inhabited

/-- A type as it is written, with the types in its angle brackets. -/
structure TypeRef where
  name : String
  arguments : List TypeRef
  deriving Inhabited

structure Parameter where
  typeRef : TypeRef
  name : String
  deriving Inhabited

/-- The range of a body in the source text. -/
structure Block where
  span : Span
  deriving DecidableEq, Inhabited

/-- A method; without a return type it returns nothing, and without a body it is abstract. -/
structure MethodDeclaration where
  name : String
  modifiers : List Modifier
  returnType : Option TypeRef
  parameters : List Parameter
  body : Option Block
  span : Span
  deriving Inhabited

structure ConstructorDeclaration where
  name : String
  modifiers : List Modifier
  parameters : List Parameter
  body : Block
  span : Span
  deriving Inhabited

/-- Fields that share one type. -/
structure FieldDeclaration where
  modifiers : List Modifier
  typeRef : TypeRef
  names : List String
  span : Span
  deriving Inhabited

structure PropertyDeclaration where
  modifiers : List Modifier
  typeRef : TypeRef
  name : String
  getter : Option Block
  setter : Option Block
  span : Span
  deriving Inhabited

structure InterfaceDeclaration where
  name : String
  modifiers : List Modifier
  extended : List TypeRef
  methods : List MethodDeclaration
  span : Span
  deriving Inhabited

mutual

inductive Declaration where
  | method (declaration : MethodDeclaration)
  | field (declaration : FieldDeclaration)
  | constructor (declaration : ConstructorDeclaration)
  | property (declaration : PropertyDeclaration)
  | innerClass (declaration : ClassDeclaration)
  | interface (declaration : InterfaceDeclaration)

structure ClassDeclaration where
  name : String
  modifiers : List Modifier
  superClass : Option TypeRef
  implemented : List TypeRef
  body : List Declaration
  span : Span

end

instance : Inhabited ClassDeclaration := ⟨⟨"", [], none, [], [], Span.unknown⟩⟩

namespace Modifier

def called (name : String) : Modifier := ⟨name, Span.unknown⟩

def isNamed (modifier : Modifier) (name : String) : Bool :=
  Text.sameName modifier.name name

end Modifier

/-- Whether one of the modifiers has the given name. -/
def hasModifier (modifiers : List Modifier) (name : String) : Bool :=
  modifiers.any (·.isNamed name)

namespace TypeRef

def named (name : String) : TypeRef := ⟨name, []⟩

mutual

/-- The name, followed by the arguments in angle brackets if there are any. -/
def display : TypeRef → String
  | ⟨name, arguments⟩ => name ++ displayArguments arguments

def displayArguments : List TypeRef → String
  | [] => ""
  | argument :: rest => "<" ++ argument.display ++ displayRest rest ++ ">"

def displayRest : List TypeRef → String
  | [] => ""
  | argument :: rest => ", " ++ argument.display ++ displayRest rest

end

end TypeRef

namespace InterfaceDeclaration

/-- A method of an interface is abstract, whether it says so or not. -/
def asAbstract (method : MethodDeclaration) : MethodDeclaration :=
  if hasModifier method.modifiers "abstract" then method
  else { method with modifiers := method.modifiers ++ [.called "abstract"] }

def push (declaration : InterfaceDeclaration) (method : MethodDeclaration) : InterfaceDeclaration :=
  { declaration with methods := declaration.methods ++ [asAbstract method] }

end InterfaceDeclaration

namespace Declaration

def modifiers : Declaration → List Modifier
  | method d => d.modifiers
  | field d => d.modifiers
  | constructor d => d.modifiers
  | property d => d.modifiers
  | innerClass d => d.modifiers
  | interface d => d.modifiers

/-- The declaration with the given modifiers in place of its own. -/
def withModifiers (modifiers : List Modifier) : Declaration → Declaration
  | method d => method { d with modifiers }
  | field d => field { d with modifiers }
  | constructor d => constructor { d with modifiers }
  | property d => property { d with modifiers }
  | innerClass d => innerClass { d with modifiers }
  | interface d => interface { d with modifiers }

def span : Declaration → Span
  | method d => d.span
  | field d => d.span
  | constructor d => d.span
  | property d => d.span
  | innerClass d => d.span
  | interface d => d.span

end Declaration

end ObjectStore
