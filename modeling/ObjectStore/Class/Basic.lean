import ObjectStore.Class.FieldType
import ObjectStore.Class.Method

/-!
# Classes

A class declares fields with their kinds and has constructors, static methods and instance methods. A declaration is transcribed member by member: a method goes to the table that its modifiers name, every name of a field declaration becomes a field, and a field declared again keeps its place and takes the later kind. Inner classes and interfaces are no part of the class itself.
-/

namespace ObjectStore

structure ClassType where
  name : String
  modifiers : List Modifier
  superClass : Option String
  constructors : List Method
  instanceMethods : MethodTable
  staticMethods : MethodTable
  fields : List (String × FieldType)

namespace ClassType

/-- A class without members. -/
def bare (name : String) : ClassType :=
  ⟨name, [], none, [], .empty, .empty, []⟩

def withField (c : ClassType) (name : String) (fieldType : FieldType) : ClassType :=
  { c with fields := Fields.set name fieldType c.fields }

def withConstructor (c : ClassType) (method : Method) : ClassType :=
  { c with constructors := c.constructors ++ [method] }

def withInstanceMethod (c : ClassType) (method : Method) : Except CompileError ClassType :=
  let (result, table) := c.instanceMethods.add c.name method
  result.map fun _ => { c with instanceMethods := table }

def withStaticMethod (c : ClassType) (method : Method) : Except CompileError ClassType :=
  let (result, table) := c.staticMethods.add c.name method
  result.map fun _ => { c with staticMethods := table }

/-- The kind of a declared field. -/
def fieldType? (c : ClassType) (field : String) : Option FieldType :=
  c.fields.lookup field

def withMethod (c : ClassType) (method : Method) : Except CompileError ClassType :=
  if method.isStatic then c.withStaticMethod method else c.withInstanceMethod method

def withMember (c : ClassType) : Declaration → Except CompileError ClassType
  | .method d => c.withMethod (.ofDeclaration d)
  | .constructor d => .ok (c.withConstructor (.ofConstructor d))
  | .field d => .ok (d.names.foldl (fun c name => c.withField name (.ofTypeRef d.typeRef)) c)
  | .property d => .ok (c.withField d.name (.ofTypeRef d.typeRef))
  | .innerClass _ => .ok c
  | .interface _ => .ok c

def ofDeclaration (d : ClassDeclaration) : Except CompileError ClassType :=
  d.body.foldlM withMember
    { bare d.name with modifiers := d.modifiers, superClass := d.superClass.map TypeRef.display }

end ClassType

end ObjectStore
