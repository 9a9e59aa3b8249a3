import ObjectStore.Json.Decode
import ObjectStore.Query.Basic

/-!
# Queries as JSON

Records become objects with all their members and variants become their names or objects with one member. Decoding accepts what encoding produces and, of the members of a record, lets the optional ones and the span be left out.
-/

namespace ObjectStore

namespace Span

def encode (span : Span) : Json :=
  .obj [("start", .ofUInt64 span.start), ("end", .ofUInt64 span.stop)]

def decode (json : Json) : Option Span :=
  match json.slots ["start", "end"] with
  | some [start, stop] => do
    some ⟨← start.required Json.asUInt64, ← stop.required Json.asUInt64⟩
  | _ => failure

end Span

namespace FieldPath

def encode (path : FieldPath) : Json :=
  .obj [("segments", .arr (path.segments.map .str))]

def decode (json : Json) : Option FieldPath :=
  match json.slots ["segments"] with
  | some [segments] => (segments.required (Json.asList Json.asString)).map FieldPath.mk
  | _ => none

end FieldPath

namespace Literal

def encode : Literal → Json
  | null => .str "Null"
  | string value => .obj [("String", .str value)]
  | integer value => .obj [("Integer", .int value.toInt)]
  | double value => .obj [("Double", .ofDouble value)]
  | boolean value => .obj [("Boolean", .bool value)]

def decode (json : Json) : Option Literal :=
  match json.variant? with
  | some ("Null", none) => some null
  | some ("Null", some .null) => some null
  | some ("String", some content) => content.asString.map string
  | some ("Integer", some content) => content.asInt64.map integer
  | some ("Double", some content) => content.asDouble.map double
  | some ("Boolean", some content) => content.asBool.map boolean
  | _ => none

end Literal

namespace Operand

def encode : Operand → Json
  | literal value => .obj [("Literal", value.encode)]
  | bind name => .obj [("Bind", .str name)]
  | list items => .obj [("List", .arr (items.map Literal.encode))]

def decode (json : Json) : Option Operand :=
  match json.variant? with
  | some ("Literal", some content) => (Literal.decode content).map literal
  | some ("Bind", some content) => content.asString.map bind
  | some ("List", some content) => (content.asList Literal.decode).map list
  | _ => none

end Operand

namespace Comparison

def names : List (String × Comparison) := [
  ("Eq", equal), ("Ne", notEqual), ("Lt", less), ("Le", atMost), ("Gt", greater), ("Ge", atLeast), ("Like", like),
  ("In", inList), ("NotIn", notInList)
]

def name : Comparison → String
  | equal => "Eq"
  | notEqual => "Ne"
  | less => "Lt"
  | atMost => "Le"
  | greater => "Gt"
  | atLeast => "Ge"
  | like => "Like"
  | inList => "In"
  | notInList => "NotIn"

def encode (comparison : Comparison) : Json := .str comparison.name

def decode : Json → Option Comparison := Json.constant names

end Comparison

namespace Condition

mutual

def encode : Condition → Json
  | compare field comparison operand =>
    .obj [("Compare", .obj [("field", field.encode), ("op", comparison.encode), ("operand", operand.encode)])]
  | all parts => .obj [("And", .arr (encodeAll parts))]
  | any parts => .obj [("Or", .arr (encodeAll parts))]
  | not inner => .obj [("Not", inner.encode)]

def encodeAll : List Condition → List Json
  | [] => []
  | part :: rest => part.encode :: encodeAll rest

end

/-- A comparison from its three members. -/
def decodeCompare (json : Json) : Option Condition :=
  match json.slots ["field", "op", "operand"] with
  | some [field, comparison, operand] => do
    some (.compare (← field.required FieldPath.decode) (← comparison.required Comparison.decode)
      (← operand.required Operand.decode))
  | _ => failure

mutual

def decode : Json → Option Condition
  | .obj [("Compare", content)] => decodeCompare content
  | .obj [("And", .arr items)] => (decodeAll items).map all
  | .obj [("Or", .arr items)] => (decodeAll items).map any
  | .obj [("Not", content)] => (decode content).map not
  | _ => none

def decodeAll : List Json → Option (List Condition)
  | [] => some []
  | item :: rest => (decode item).bind fun part => (decodeAll rest).map (part :: ·)

end

end Condition

namespace OrderBy

def encodeDirection : SortDirection → Json
  | .ascending => .str "Asc"
  | .descending => .str "Desc"

def encodeNulls : NullsOrder → Json
  | .first => .str "First"
  | .last => .str "Last"

def encode (order : OrderBy) : Json :=
  .obj [
    ("field", order.field.encode), ("direction", encodeDirection order.direction),
    ("nulls", .ofOption encodeNulls order.nulls)
  ]

def decode (json : Json) : Option OrderBy :=
  match json.slots ["field", "direction", "nulls"] with
  | some [field, direction, nulls] => do
    some ⟨
      ← field.required FieldPath.decode,
      ← direction.required (Json.constant [("Asc", .ascending), ("Desc", .descending)]),
      ← nulls.optional (Json.constant [("First", .first), ("Last", .last)])⟩
  | _ => failure

end OrderBy

namespace Query

def encode (query : Query) : Json :=
  .obj [
    ("from", .str query.source), ("fields", .arr (query.fields.map FieldPath.encode)),
    ("filter", .ofOption Condition.encode query.filter), ("order_by", .arr (query.orderBy.map OrderBy.encode)),
    ("limit", .ofOption .ofUInt64 query.limit), ("offset", .ofOption .ofUInt64 query.offset),
    ("span", query.span.encode)
  ]

def decode (json : Json) : Option Query :=
  match json.slots ["from", "fields", "filter", "order_by", "limit", "offset", "span"] with
  | some [source, fields, filter, orderBy, limit, offset, span] => do
    some {
      source := ← source.required Json.asString
      fields := ← fields.required (Json.asList FieldPath.decode)
      filter := ← filter.optional Condition.decode
      orderBy := ← orderBy.required (Json.asList OrderBy.decode)
      limit := ← limit.optional Json.asUInt64
      offset := ← offset.optional Json.asUInt64
      span := ← span.withDefault Span.unknown Span.decode
    }
  | _ => failure

end Query

end ObjectStore
