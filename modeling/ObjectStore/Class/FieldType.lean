import ObjectStore.Decl.Basic

/-!
# Declared kinds of fields

The name of a type, in any case, says which kind of value a field holds. Every name that is not one of the built-in kinds refers to a class.
-/

namespace ObjectStore

inductive FieldType where
  | string
  | id
  | integer
  | double
  | boolean
  | list
  | reference (className : String)
  deriving DecidableEq, Inhabited

namespace FieldType

def ofTypeRef (typeRef : TypeRef) : FieldType :=
  match Text.lowerAscii typeRef.name with
  | "string" => string
  | "id" => id
  | "integer" => integer
  | "long" => integer
  | "double" => double
  | "decimal" => double
  | "boolean" => boolean
  | "list" => list
  | "set" => list
  | _ => reference typeRef.name

def name : FieldType → String
  | string => "String"
  | id => "Id"
  | integer => "Integer"
  | double => "Double"
  | boolean => "Boolean"
  | list => "List"
  | reference className => className

end FieldType

end ObjectStore
