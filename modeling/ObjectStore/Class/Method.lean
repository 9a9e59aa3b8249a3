import ObjectStore.Decl.Basic
import ObjectStore.Dml.Settings
import ObjectStore.Error
import ObjectStore.Value.Basic

/-!
# Methods and overloads

A method is called with arguments whose type names fit its parameters: they are equal up to case, or the parameter takes any object, or the argument is null. Methods of one name are overloads of each other; they are kept in the order in which they were added, no two of them have the same parameter types, and a call goes to the first that fits.

The body of a method is either a block, which somebody else runs, or native. A native body computes its value from the call alone, or writes to the log, or works on the store.
-/

namespace ObjectStore

/-- Named values that come with every call. -/
abbrev Context := List (String × Value)

structure Invocation where
  receiver : Option Value
  arguments : List Value
  context : Context

/-- What scripts may ask of the store. -/
inductive DatabaseCall where
  /-- An operation on a list of records, given the name of the key field if `keyed`. -/
  | change (operation : Dml.Operation) (keyed : Bool)
  /-- The number of records of a class. -/
  | countRecords

inductive NativeBody where
  | compute (run : Invocation → Except Error Value)
  /-- Writes the argument to the log. -/
  | log
  | database (settings : Dml.Settings) (call : DatabaseCall)

inductive MethodBody where
  | native (body : NativeBody)
  | interpreted (block : Block)

/-- A method; one without a body is abstract. -/
structure Method where
  name : String
  parameterTypes : List String
  parameterNames : List String
  returnType : Option String
  modifiers : List Modifier
  body : Option MethodBody

namespace Method

/-- A native method, whose parameters are called by their positions. -/
def ofNative (name : String) (parameterTypes : List String) (returnType : Option String) (body : NativeBody) :
    Method where
  name
  parameterTypes
  parameterNames := (List.range parameterTypes.length).map fun i => "arg" ++ toString i
  returnType
  modifiers := []
  body := some (.native body)

def ofParameters (name : String) (parameters : List Parameter) (returnType : Option TypeRef)
    (modifiers : List Modifier) (body : Option Block) : Method where
  name
  parameterTypes := parameters.map (·.typeRef.display)
  parameterNames := parameters.map (·.name)
  returnType := returnType.map TypeRef.display
  modifiers
  body := body.map .interpreted

def ofDeclaration (d : MethodDeclaration) : Method :=
  ofParameters d.name d.parameters d.returnType d.modifiers d.body

def ofConstructor (d : ConstructorDeclaration) : Method :=
  ofParameters d.name d.parameters none d.modifiers (some d.body)

def isNative (method : Method) : Bool :=
  match method.body with
  | some (.native _) => true
  | _ => false

def isStatic (method : Method) : Bool :=
  hasModifier method.modifiers "static"

def signature (method : Method) : String :=
  ", ".intercalate method.parameterTypes

/-- Whether an argument of the given type may stand for a parameter. -/
def fits (parameter argument : String) : Bool :=
  Text.sameName parameter argument || Text.sameName parameter "Object" || argument == "Null"

def fitsAll : List String → List String → Bool
  | [], [] => true
  | parameter :: parameters, argument :: arguments => fits parameter argument && fitsAll parameters arguments
  | _, _ => false

def accepts (method : Method) (argumentTypes : List String) : Bool :=
  fitsAll method.parameterTypes argumentTypes

end Method

/-- Overloads by name, in the order in which the names were first used. -/
structure MethodTable where
  overloads : List (String × List Method)

namespace MethodTable

def empty : MethodTable := ⟨[]⟩

/-- The overloads of a name. -/
def get (table : MethodTable) (name : String) : List Method :=
  (table.overloads.lookup name).getD []

def names (table : MethodTable) : List String :=
  Fields.names table.overloads

/-- The table with an entry for a name; a new one goes to the end and has no overloads yet. -/
def opened (table : MethodTable) (name : String) : MethodTable :=
  ⟨Fields.set name (table.get name) table.overloads⟩

/-- Adds an overload, unless one with the same parameter types is there. The name has its entry before the overloads are compared. -/
def add (table : MethodTable) (className : String) (method : Method) : Except CompileError Unit × MethodTable :=
  let table := table.opened method.name
  let overloads := table.get method.name
  if overloads.any fun other => other.parameterTypes == method.parameterTypes then
    (.error (.duplicateMethod className method.name method.signature), table)
  else (.ok (), ⟨Fields.set method.name (overloads ++ [method]) table.overloads⟩)

/-- The first overload that accepts the argument types. -/
def resolve? (table : MethodTable) (name : String) (argumentTypes : List String) : Option Method :=
  (table.get name).find? (·.accepts argumentTypes)

end MethodTable

end ObjectStore
