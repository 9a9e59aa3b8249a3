import ObjectStore.Query.Condition

/-!
# Spans and queries

A query selects fields of the records of one class, possibly through relations, with an optional condition, ordering and paging. Every node carries the range of the source text it was read from, which plays no part in its meaning.
-/

namespace ObjectStore

/-- A range of positions in a source text. -/
structure Span where
  start : UInt64
  stop : UInt64
  deriving DecidableEq, Inhabited

namespace Span

/-- The range of a node that was not read from a text. -/
def unknown : Span := ⟨0, 0⟩

/-- The number of positions in the range; a range that ends before it starts is empty. -/
def length (span : Span) : Nat :=
  span.stop.toNat - span.start.toNat

def isEmpty (span : Span) : Bool :=
  span.length == 0

end Span

inductive SortDirection where
  | ascending
  | descending
  deriving DecidableEq, Inhabited

/-- Where the rows without a value go. -/
inductive NullsOrder where
  | first
  | last
  deriving DecidableEq, Inhabited

structure OrderBy where
  field : FieldPath
  direction : SortDirection
  nulls : Option NullsOrder
  deriving DecidableEq, Inhabited

namespace OrderBy

def ascending (field : FieldPath) : OrderBy := ⟨field, .ascending, none⟩

def descending (field : FieldPath) : OrderBy := ⟨field, .descending, none⟩

end OrderBy

structure Query where
  source : String
  fields : List FieldPath
  filter : Option Condition
  orderBy : List OrderBy
  limit : Option UInt64
  offset : Option UInt64
  span : Span
  deriving Inhabited

namespace Query

/-- The query for the given fields of all records of a class. -/
def select (source : String) (fields : List FieldPath) : Query :=
  ⟨source, fields, none, [], none, none, Span.unknown⟩

/-- The query with the given condition in place of its own. -/
def filtered (query : Query) (condition : Condition) : Query :=
  { query with filter := some condition }

/-- The query ordered further by one more field. -/
def thenBy (query : Query) (order : OrderBy) : Query :=
  { query with orderBy := query.orderBy ++ [order] }

def withLimit (query : Query) (limit : UInt64) : Query :=
  { query with limit := some limit }

def withOffset (query : Query) (offset : UInt64) : Query :=
  { query with offset := some offset }

end Query

end ObjectStore
