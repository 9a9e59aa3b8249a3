import ObjectStore.Class.Registry
import ObjectStore.Text.Casing

/-!
# Native classes that need no store

The classes that every script may use: the page in the context, the log, and conversions of numbers and texts. Integers and doubles are read from a text with blanks around it.
-/

namespace ObjectStore.Native

/-- The receiver of a call, which an instance method has. -/
def receiver (className method : String) (call : Invocation) : Except Error Value :=
  match call.receiver with
  | some value => .ok value
  | none => .error (.native className method "called without a receiver")

/-- The argument at a position. -/
def argument (className method : String) (arguments : List Value) (index : Nat) : Except Error Value :=
  match arguments[index]? with
  | some value => .ok value
  | none => .error (.native className method ("missing argument #" ++ toString index))

def wrongReceiver (className method : String) (value : Value) : Error :=
  .native className method ("receiver is " ++ value.typeName)

/-- A value read from the text in the first argument; the class is named after what is read. -/
def parsed (className : String) (read : List Char → Option Value) (call : Invocation) : Except Error Value := do
  match ← argument className "valueOf" call.arguments 0 with
  | .string text =>
    match read (Text.trim text.toList) with
    | some value => .ok value
    | none => .error (.native className "valueOf" ("'" ++ text ++ "' is not a valid " ++ className))
  | value => .error (.native className "valueOf" ("expected String, got " ++ value.typeName))

/-- The name under which the context holds the current page. -/
def currentPageKey : String := "current_page"

def currentPage (call : Invocation) : Except Error Value :=
  .ok ((call.context.lookup currentPageKey).getD .null)

/-- A number with six places. -/
def formatDouble (call : Invocation) : Except Error Value := do
  match ← receiver "Double" "format" call with
  | .double d => .ok (.string d.sixPlaces)
  | .integer n => .ok (.string (Double.ofInt n.toInt).sixPlaces)
  | value => .error (wrongReceiver "Double" "format" value)

def parseDouble : Invocation → Except Error Value :=
  parsed "Double" fun text => (Number.readDouble text).map .double

def parseInteger : Invocation → Except Error Value :=
  parsed "Integer" fun text => (Number.readInt64 text).map .integer

def displayValue (call : Invocation) : Except Error Value := do
  let value ← argument "String" "valueOf" call.arguments 0
  .ok (.string value.display)

/-- A function of the text that receives the call. -/
def onText (method : String) (f : String → Value) (call : Invocation) : Except Error Value := do
  match ← receiver "String" method call with
  | .string text => .ok (f text)
  | value => .error (wrongReceiver "String" method value)

def table (methods : List Method) : MethodTable :=
  ⟨methods.map fun method => (method.name, [method])⟩

/-- A class of native methods with different names. -/
def nativeClass (name : String) (staticMethods instanceMethods : List Method) : ClassType :=
  { ClassType.bare name with staticMethods := table staticMethods, instanceMethods := table instanceMethods }

def pages : ClassType :=
  nativeClass "ApexPages" [.ofNative "currentPage" [] (some "PageReference") (.compute currentPage)] []

def system : ClassType :=
  nativeClass "System" [.ofNative "debug" ["Object"] none .log] []

def double : ClassType :=
  nativeClass "Double" [.ofNative "valueOf" ["String"] (some "Double") (.compute parseDouble)]
    [.ofNative "format" [] (some "String") (.compute formatDouble)]

def integer : ClassType :=
  nativeClass "Integer" [.ofNative "valueOf" ["String"] (some "Integer") (.compute parseInteger)] []

def string : ClassType :=
  nativeClass "String" [.ofNative "valueOf" ["Object"] (some "String") (.compute displayValue)] [
    .ofNative "length" [] (some "Integer")
      (.compute (onText "length" fun text => .integer (Int64.ofNat text.length))),
    .ofNative "toUpperCase" [] (some "String")
      (.compute (onText "toUpperCase" fun text => .string (Text.toUpper text))),
    .ofNative "toLowerCase" [] (some "String")
      (.compute (onText "toLowerCase" fun text => .string (Text.toLower text)))
  ]

end ObjectStore.Native

/-- The registry of the classes that need no store. -/
def ObjectStore.Registry.builtin : ObjectStore.Registry :=
  ⟨[Native.pages, Native.system, Native.double, Native.integer, Native.string]⟩
