import ObjectStore.Number.Written
import ObjectStore.Query.Condition
import ObjectStore.Text.Quoted

/-!
# Values and records

A value is a scalar, a list of values or a record: the name of a class with fields in the order in which they were first set. Setting a field that is present keeps its place, and removing one keeps the order of the others.
-/

namespace ObjectStore

inductive Value where
  | null
  | string (value : String)
  | integer (value : Int64)
  | double (value : Double)
  | boolean (value : Bool)
  | object (className : String) (fields : List (String × Value))
  | list (items : List Value)
  deriving Inhabited

structure Record where
  className : String
  fields : List (String × Value)
  deriving Inhabited

namespace Fields

variable {α : Type}

/-- The fields with one set; a new field goes to the end. -/
def set (name : String) (value : α) : List (String × α) → List (String × α)
  | [] => [(name, value)]
  | (n, v) :: rest => if n = name then (n, value) :: rest else (n, v) :: set name value rest

def erase (name : String) (fields : List (String × α)) : List (String × α) :=
  fields.eraseP fun field => field.1 = name

def names (fields : List (String × α)) : List String :=
  fields.map Prod.fst

end Fields

namespace Value

def typeName : Value → String
  | null => "Null"
  | string _ => "String"
  | integer _ => "Integer"
  | double _ => "Double"
  | boolean _ => "Boolean"
  | object className _ => className
  | list _ => "List"

def isNull : Value → Bool
  | null => true
  | _ => false

def asString? : Value → Option String
  | string s => some s
  | _ => none

def asInteger? : Value → Option Int64
  | integer n => some n
  | _ => none

/-- The number of a double or an integer. -/
def asDouble? : Value → Option Double
  | double d => some d
  | integer n => some (Double.ofInt n.toInt)
  | _ => none

def asBoolean? : Value → Option Bool
  | boolean b => some b
  | _ => none

def asRecord? : Value → Option Record
  | object className fields => some ⟨className, fields⟩
  | _ => none

def asList? : Value → Option (List Value)
  | list items => some items
  | _ => none

def ofRecord (record : Record) : Value :=
  object record.className record.fields

def ofLiteral : Literal → Value
  | .null => null
  | .string s => string s
  | .integer n => integer n
  | .double d => double d
  | .boolean b => boolean b

mutual

/-- Equality of values, in which a double that is not a number equals nothing and the order of fields does not count. -/
def same : Value → Value → Bool
  | null, null => true
  | string a, string b => a == b
  | integer a, integer b => a == b
  | double a, double b => a.equal b
  | boolean a, boolean b => a == b
  | object c fields, object c' fields' => c == c' && fields.length == fields'.length && sameFields fields fields'
  | list items, list items' => sameItems items items'
  | _, _ => false

/-- Whether every field on the left is on the right with an equal value. -/
def sameFields : List (String × Value) → List (String × Value) → Bool
  | [], _ => true
  | (name, value) :: rest, fields =>
    (match fields.lookup name with
      | some other => same value other
      | none => false) && sameFields rest fields

def sameItems : List Value → List Value → Bool
  | [], [] => true
  | a :: rest, b :: rest' => same a b && sameItems rest rest'
  | _, _ => false

end

mutual

/-- The value as it is shown to a user. -/
def display : Value → String
  | null => "null"
  | string s => s
  | integer n => String.ofList (Number.writeInt n.toInt)
  | double d => d.display
  | boolean true => "true"
  | boolean false => "false"
  | object className fields => className ++ ":\x7b" ++ ", ".intercalate (displayFields fields) ++ "\x7d"
  | list items => "(" ++ ", ".intercalate (displayItems items) ++ ")"

def displayFields : List (String × Value) → List String
  | [] => []
  | (name, value) :: rest => (name ++ "=" ++ value.display) :: displayFields rest

def displayItems : List Value → List String
  | [] => []
  | item :: rest => item.display :: displayItems rest

end

mutual

/-- The value as it appears in a diagnostic dump, with its kind. -/
def dump : Value → String
  | null => "Null"
  | string s => "String(" ++ Text.quoted s ++ ")"
  | integer n => "Integer(" ++ String.ofList (Number.writeInt n.toInt) ++ ")"
  | double d => "Double(" ++ d.literal ++ ")"
  | boolean true => "Boolean(true)"
  | boolean false => "Boolean(false)"
  | object className fields => "Object(" ++ dumpRecord className fields ++ ")"
  | list items => "List([" ++ ", ".intercalate (dumpItems items) ++ "])"

def dumpRecord (className : String) : List (String × Value) → String
  | [] => className
  | (name, value) :: rest =>
    className ++ " \x7b " ++ ", ".intercalate ((name ++ ": " ++ value.dump) :: dumpFields rest) ++ " \x7d"

def dumpFields : List (String × Value) → List String
  | [] => []
  | (name, value) :: rest => (name ++ ": " ++ value.dump) :: dumpFields rest

def dumpItems : List Value → List String
  | [] => []
  | item :: rest => item.dump :: dumpItems rest

end

end Value

namespace Record

def empty (className : String) : Record := ⟨className, []⟩

def get? (record : Record) (field : String) : Option Value :=
  record.fields.lookup field

def set (record : Record) (field : String) (value : Value) : Record :=
  { record with fields := Fields.set field value record.fields }

def erase (record : Record) (field : String) : Record :=
  { record with fields := Fields.erase field record.fields }

/-- The record with a new value in a field that is present; any other field changes nothing. -/
def replace (record : Record) (field : String) (value : Value) : Record :=
  if (record.get? field).isSome then record.set field value else record

def contains (record : Record) (field : String) : Bool :=
  (record.get? field).isSome

/-- The related record in a field. -/
def nested? (record : Record) (relation : String) : Option Record :=
  (record.get? relation).bind Value.asRecord?

def names (record : Record) : List String :=
  Fields.names record.fields

/-- Equality of records as values. -/
def same (a b : Record) : Bool :=
  (Value.ofRecord a).same (Value.ofRecord b)

def display (record : Record) : String :=
  (Value.ofRecord record).display

def dump (record : Record) : String :=
  Value.dumpRecord record.className record.fields

end Record

end ObjectStore
