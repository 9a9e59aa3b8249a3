import ObjectStore.Number.Double
import ObjectStore.Query.FieldPath
import ObjectStore.Text.Basic

/-!
# Conditions

A condition compares fields with operands and combines comparisons by conjunction, disjunction and negation, the first two over any number of parts. An operand is a literal, a list of literals, or a variable that stands for a value given with the query.
-/

namespace ObjectStore

inductive Literal where
  | null
  | string (value : String)
  | integer (value : Int64)
  | double (value : Double)
  | boolean (value : Bool)
  deriving DecidableEq, Inhabited

inductive Operand where
  | literal (value : Literal)
  /-- The value bound to a variable. -/
  | bind (name : String)
  | list (items : List Literal)
  deriving DecidableEq, Inhabited

inductive Comparison where
  | equal
  | notEqual
  | less
  | atMost
  | greater
  | atLeast
  | like
  | inList
  | notInList
  deriving DecidableEq, Inhabited

namespace Comparison

/-- The comparison as it is written in a statement. -/
def sql : Comparison → String
  | equal => "="
  | notEqual => "!="
  | less => "<"
  | atMost => "<="
  | greater => ">"
  | atLeast => ">="
  | like => "LIKE"
  | inList => "IN"
  | notInList => "NOT IN"

/-- The comparison that a text names, in any case; inequality has two spellings. -/
def ofText? (text : String) : Option Comparison :=
  match Text.upperAscii text with
  | "=" => some equal
  | "!=" => some notEqual
  | "<>" => some notEqual
  | "<" => some less
  | "<=" => some atMost
  | ">" => some greater
  | ">=" => some atLeast
  | "LIKE" => some like
  | "IN" => some inList
  | "NOT IN" => some notInList
  | _ => none

end Comparison

inductive Condition where
  | compare (field : FieldPath) (comparison : Comparison) (operand : Operand)
  | all (parts : List Condition)
  | any (parts : List Condition)
  | not (inner : Condition)
  deriving Inhabited

namespace Condition

mutual

/-- The paths of the compared fields, in the order in which they are written. -/
def fields : Condition → List FieldPath
  | compare field _ _ => [field]
  | all parts => fieldsOfAll parts
  | any parts => fieldsOfAll parts
  | not inner => inner.fields

def fieldsOfAll : List Condition → List FieldPath
  | [] => []
  | part :: rest => part.fields ++ fieldsOfAll rest

end

end Condition

end ObjectStore
