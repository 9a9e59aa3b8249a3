import ObjectStore.Value.Basic

/-!
# Edits of records

A field of a record is set, removed or written in place, and whoever does so learns which value it held before. All of them go to the field once and differ only in what they leave there.
-/

namespace ObjectStore

inductive Edit where
  | set (field : String) (value : Value)
  | remove (field : String)
  /-- A new value for a field that is there; one that is not stays away. -/
  | replace (field : String) (value : Value)

namespace Edit

def field : Edit → String
  | set field _ => field
  | remove field => field
  | replace field _ => field

/-- What the edit leaves in a field that is there, if anything. -/
def present : Edit → Option Value
  | set _ value => some value
  | remove _ => none
  | replace _ value => some value

/-- What the edit puts into a field that is not there, if anything. -/
def absent : Edit → Option Value
  | set _ value => some value
  | remove _ => none
  | replace _ _ => none

end Edit

/-- Goes to a field and leaves `present` there; a field that is not there comes to the end with `absent`. Also tells the value that was found. -/
def Fields.visit {α : Type} (name : String) (present absent : Option α) : List (String × α) → Option α × List (String × α)
  | [] => (none, (absent.map (name, ·)).toList)
  | (n, v) :: rest =>
    if n = name then (some v, (present.map (n, ·)).toList ++ rest)
    else
      let (found, rest) := visit name present absent rest
      (found, (n, v) :: rest)

namespace Record

/-- The value that the field held before an edit, and the record after it. -/
def edit (record : Record) (edit : Edit) : Option Value × Record :=
  let (held, fields) := Fields.visit edit.field edit.present edit.absent record.fields
  (held, { record with fields })

/-- The record after edits, one after the other. -/
def editAll (record : Record) (edits : List Edit) : Record :=
  edits.foldl (fun record edit => (record.edit edit).2) record

end Record

end ObjectStore
