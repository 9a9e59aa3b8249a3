import ObjectStore.Query.Encoding

/-!
# Change statements

The four operations that change records, and the statement that names an operation and, for an upsert, the field whose value identifies a record.
-/

namespace ObjectStore.Dml

inductive Operation where
  | insert
  | update
  | delete
  | upsert
  deriving DecidableEq, Inhabited

namespace Operation

def name : Operation → String
  | insert => "insert"
  | update => "update"
  | delete => "delete"
  | upsert => "upsert"

def names : List (String × Operation) :=
  [("insert", insert), ("update", update), ("delete", delete), ("upsert", upsert)]

/-- The operation that a text names, in any case. -/
def ofText? (text : String) : Option Operation :=
  names.lookup (Text.lowerAscii text)

def encode (operation : Operation) : Json := .str operation.name

def decode : Json → Option Operation := Json.constant names

end Operation

structure Statement where
  operation : Operation
  upsertKey : Option String
  span : Span
  deriving DecidableEq, Inhabited

namespace Statement

def encode (statement : Statement) : Json :=
  .obj [
    ("operation", statement.operation.encode), ("upsert_key", .ofOption .str statement.upsertKey),
    ("span", statement.span.encode)
  ]

def decode (json : Json) : Option Statement :=
  match json.slots ["operation", "upsert_key", "span"] with
  | some [operation, key, span] => do
    some ⟨
      ← operation.required Operation.decode, ← key.optional Json.asString,
      ← span.withDefault Span.unknown Span.decode⟩
  | _ => failure

end Statement

end ObjectStore.Dml
