/-!
# Field paths

A path names a field, possibly of a related record: every segment but the last is a relation to follow and the last is the field to read. As text the segments stand between dots, the empty text being the path without segments.
-/

namespace ObjectStore

structure FieldPath where
  segments : List String
  deriving DecidableEq, Inhabited

namespace FieldPath

/-- The pieces between dots, of which there is always at least one. -/
def splitDots : List Char → List (List Char)
  | [] => [[]]
  | c :: rest =>
    if c = '.' then [] :: splitDots rest
    else
      match splitDots rest with
      | piece :: pieces => (c :: piece) :: pieces
      | [] => [[c]]

def parse (text : String) : FieldPath :=
  match text.toList with
  | [] => ⟨[]⟩
  | cs => ⟨(splitDots cs).map String.ofList⟩

def display (path : FieldPath) : String :=
  ".".intercalate path.segments

/-- The relations to follow, from the record that the path starts at. -/
def relations (path : FieldPath) : List String :=
  path.segments.dropLast

/-- The field to read. -/
def leaf? (path : FieldPath) : Option String :=
  path.segments.getLast?

/-- Whether the path leaves the record that it starts at. -/
def isRelationship (path : FieldPath) : Bool :=
  1 < path.segments.length

end FieldPath

end ObjectStore
