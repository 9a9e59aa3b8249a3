import ObjectStore.Query.Condition
import ObjectStore.Json.Decode

/-!
# Causes of failure

Every failure is a value that says what went wrong. Its message, its code and its kind are functions of that value. A failure while compiling happens before any statement exists; a failed lookup is a missing key or method; an execution fails when the store refuses a statement or its answer cannot be used.
-/

namespace ObjectStore

/-- The kinds of failure. -/
inductive ErrorKind where
  | compile
  | lookup
  | execution
  | typeConversion
  | storeTimeout
  | native
  | config
  deriving DecidableEq, Inhabited

namespace ErrorKind

def name : ErrorKind → String
  | compile => "Compile"
  | lookup => "Lookup"
  | execution => "Execution"
  | typeConversion => "TypeConversion"
  | storeTimeout => "StoreTimeout"
  | native => "Native"
  | config => "Config"

def names : List (String × ErrorKind) := [
  ("Compile", compile), ("Lookup", lookup), ("Execution", execution), ("TypeConversion", typeConversion),
  ("StoreTimeout", storeTimeout), ("Native", native), ("Config", config)
]

def encode (kind : ErrorKind) : Json := .str kind.name

def decode : Json → Option ErrorKind := Json.constant names

end ErrorKind

/-- What a comparison cannot be given. -/
inductive OperandShape where
  | singleValue
  | list
  | null
  deriving DecidableEq

def OperandShape.description : OperandShape → String
  | singleValue => "a single value"
  | list => "a list"
  | null => "null"

/-- A query, a statement or a class could not be built. -/
inductive CompileError where
  | unknownClass (name : String)
  | unknownRelation (relation path : String)
  | selfRelation (relation : String)
  | emptyFieldPath (index : Nat)
  | emptySelection (className : String)
  | duplicateField (path : String)
  | invalidIdentifier (identifier : String)
  | unboundVariable (name : String)
  | unrenderable (kind : String)
  | invalidOperand (comparison : Comparison) (shape : OperandShape)
  | emptyUpdate (className : String)
  | classMismatch (expected found : String)
  | duplicateClass (name : String)
  | duplicateMethod (className method signature : String)
  | aliasCollision (name path : String)
  | pagingOutOfRange (clause : String) (value : UInt64)
  deriving DecidableEq

namespace CompileError

def message : CompileError → String
  | unknownClass name => "unknown class '" ++ name ++ "'"
  | unknownRelation relation path => "unknown relation '" ++ relation ++ "' in field path '" ++ path ++ "'"
  | selfRelation relation => "relation '" ++ relation ++ "' refers back to the queried class"
  | emptyFieldPath index => "field path #" ++ toString index ++ " is empty"
  | emptySelection className => "query on '" ++ className ++ "' selects no fields"
  | duplicateField path => "field '" ++ path ++ "' is selected more than once"
  | invalidIdentifier identifier => "'" ++ identifier ++ "' is not a valid identifier"
  | unboundVariable name => "bind variable ':" ++ name ++ "' has no value"
  | unrenderable kind => kind ++ " value cannot be written as a store literal"
  | invalidOperand comparison shape => "operator " ++ comparison.sql ++ " cannot take " ++ shape.description
  | emptyUpdate className => "update of '" ++ className ++ "' has no fields to set"
  | classMismatch expected found => "record of class '" ++ found ++ "' passed to DML on '" ++ expected ++ "'"
  | duplicateClass name => "class '" ++ name ++ "' is already registered"
  | duplicateMethod className method signature =>
    "method '" ++ className ++ "." ++ method ++ "(" ++ signature ++ ")' is declared twice"
  | aliasCollision name path => "join alias '" ++ name ++ "' for '" ++ path ++ "' is already taken by another table"
  | pagingOutOfRange clause value => clause ++ " " ++ toString value.toNat ++ " is out of range"

def code : CompileError → String
  | unknownClass _ => "E-COMPILE-001"
  | unknownRelation _ _ => "E-COMPILE-002"
  | selfRelation _ => "E-COMPILE-003"
  | emptyFieldPath _ => "E-COMPILE-004"
  | emptySelection _ => "E-COMPILE-005"
  | duplicateField _ => "E-COMPILE-006"
  | invalidIdentifier _ => "E-COMPILE-007"
  | unboundVariable _ => "E-COMPILE-008"
  | unrenderable _ => "E-COMPILE-009"
  | invalidOperand _ _ => "E-COMPILE-010"
  | emptyUpdate _ => "E-COMPILE-011"
  | classMismatch _ _ => "E-COMPILE-012"
  | duplicateClass _ => "E-COMPILE-013"
  | duplicateMethod _ _ _ => "E-COMPILE-014"
  | aliasCollision _ _ => "E-COMPILE-015"
  | pagingOutOfRange _ _ => "E-COMPILE-016"

end CompileError

/-- A key or a method is missing. -/
inductive LookupError where
  | missingKey (className field : String) (index : Nat)
  | noSuchMethod (className method signature : String)
  deriving DecidableEq

namespace LookupError

def message : LookupError → String
  | missingKey className field index =>
    "record #" ++ toString index ++ " of '" ++ className ++ "' has no '" ++ field ++ "' value"
  | noSuchMethod className method signature =>
    "no method '" ++ className ++ "." ++ method ++ "' accepts (" ++ signature ++ ")"

def code : LookupError → String
  | missingKey _ _ _ => "E-LOOKUP-001"
  | noSuchMethod _ _ _ => "E-LOOKUP-002"

end LookupError

/-- The store refused a statement, or its answer is of no use. -/
inductive ExecutionError where
  | rejected (statement : String) (record : Option Nat) (reason : String)
  | projectionMismatch (expected found : Nat)
  | rolledBack (record : Nat)
  | transaction (reason : String)
  deriving DecidableEq

namespace ExecutionError

def message : ExecutionError → String
  | rejected statement _ reason => "statement rejected: " ++ reason ++ " [" ++ statement ++ "]"
  | projectionMismatch expected found =>
    "result row has " ++ toString found ++ " columns, projection expects " ++ toString expected
  | rolledBack record => "record #" ++ toString record ++ " rolled back with its batch"
  | transaction reason => "transaction failed: " ++ reason

def code : ExecutionError → String
  | rejected _ _ _ => "E-EXEC-001"
  | projectionMismatch _ _ => "E-EXEC-002"
  | rolledBack _ => "E-EXEC-003"
  | transaction _ => "E-EXEC-004"

end ExecutionError

/-- A column does not fit the kind of value that its field holds. -/
structure ConversionError where
  field : String
  expected : String
  found : String
  deriving DecidableEq

def ConversionError.message (e : ConversionError) : String :=
  "field '" ++ e.field ++ "': cannot convert " ++ e.found ++ " to " ++ e.expected

/-- Why a call to the store is given up. -/
inductive Interruption where
  | deadlineExceeded
  | cancelled
  deriving DecidableEq

def Interruption.description : Interruption → String
  | deadlineExceeded => "exceeded its deadline"
  | cancelled => "was cancelled"

/-- A call to the store was given up. -/
structure Timeout where
  statement : String
  reason : Interruption
  deriving DecidableEq

def Timeout.message (timeout : Timeout) : String :=
  "store call " ++ timeout.reason.description ++ ": " ++ timeout.statement

/-- Any failure. -/
inductive Error where
  | compile (error : CompileError)
  | lookup (error : LookupError)
  | execution (error : ExecutionError)
  | conversion (error : ConversionError)
  | timeout (timeout : Timeout)
  | native (className method reason : String)
  | config (reason : String)
  deriving DecidableEq

namespace Error

def message : Error → String
  | compile e => e.message
  | lookup e => e.message
  | execution e => e.message
  | conversion e => e.message
  | timeout t => t.message
  | native className method reason => className ++ "." ++ method ++ ": " ++ reason
  | config reason => "invalid configuration: " ++ reason

def code : Error → String
  | compile e => e.code
  | lookup e => e.code
  | execution e => e.code
  | conversion _ => "E-TYPE-001"
  | timeout _ => "E-TIMEOUT-001"
  | native _ _ _ => "E-NATIVE-001"
  | config _ => "E-CONFIG-001"

def kind : Error → ErrorKind
  | compile _ => .compile
  | lookup _ => .lookup
  | execution _ => .execution
  | conversion _ => .typeConversion
  | timeout _ => .storeTimeout
  | native _ _ _ => .native
  | config _ => .config

end Error

/-- A word that names no operation or no comparison. -/
inductive UnknownWord where
  | operation (text : String)
  | comparison (text : String)
  deriving DecidableEq

def UnknownWord.message : UnknownWord → String
  | operation text => "unknown DML operation '" ++ text ++ "' (expected insert, update, delete or upsert)"
  | comparison text => "unknown comparison operator '" ++ text ++ "'"

end ObjectStore
