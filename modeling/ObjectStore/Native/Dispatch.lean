import ObjectStore.Native.Database

/-!
# Calling methods

A call goes to the overload that accepts the types of the arguments. A native method runs at once, over the store of the session and writing to a log; an interpreted method is handed back, to be run by somebody else; an abstract method cannot be called.
-/

namespace ObjectStore

variable {σ : Type}

/-- What a call comes to. -/
inductive CallAnswer where
  | returned (value : Value)
  /-- The method whose body is to be run. -/
  | interpreted (method : Method)

/-- The answer of a call, the lines that it wrote to the log, and the world after it. -/
structure Reply (σ : Type) where
  answer : Except Error CallAnswer
  log : List String
  world : World σ

namespace NativeBody

/-- Writing to the log answers null. -/
def logged (call : Invocation) : Except Error (Value × List String) := do
  let value ← Native.argument "System" "debug" call.arguments 0
  .ok (.null, [value.display])

def run (store : Store σ) (call : Invocation) (world : World σ) : NativeBody → Reply σ
  | compute f => ⟨(f call).map .returned, [], world⟩
  | log =>
    match logged call with
    | .ok (value, lines) => ⟨.ok (.returned value), lines, world⟩
    | .error e => ⟨.error e, [], world⟩
  | database settings request =>
    let (result, world) := Native.answer store settings request call.arguments world
    ⟨result.map .returned, [], world⟩

end NativeBody

namespace ClassType

/-- The method of a table that a call goes to. -/
def resolveIn (c : ClassType) (table : MethodTable) (name : String) (arguments : List Value) :
    Except Error Method :=
  let types := arguments.map Value.typeName
  match table.resolve? name types with
  | some method => .ok method
  | none => .error (.lookup (.noSuchMethod c.name name (", ".intercalate types)))

def invokeIn (store : Store σ) (c : ClassType) (table : MethodTable) (name : String) (call : Invocation)
    (world : World σ) : Reply σ :=
  match c.resolveIn table name call.arguments with
  | .error e => ⟨.error e, [], world⟩
  | .ok method =>
    match method.body with
    | some (.native body) => body.run store call world
    | some (.interpreted _) => ⟨.ok (.interpreted method), [], world⟩
    | none => ⟨.error (.native c.name method.name "abstract method has no body"), [], world⟩

def invokeStatic (store : Store σ) (c : ClassType) (name : String) (arguments : List Value) (context : Context)
    (world : World σ) : Reply σ :=
  c.invokeIn store c.staticMethods name ⟨none, arguments, context⟩ world

def invokeInstance (store : Store σ) (c : ClassType) (receiver : Value) (name : String) (arguments : List Value)
    (context : Context) (world : World σ) : Reply σ :=
  c.invokeIn store c.instanceMethods name ⟨some receiver, arguments, context⟩ world

end ClassType

end ObjectStore
