import ObjectStore.Json.Basic
import ObjectStore.Number.Written

/-!
# Decoding JSON into records and variants

A record is decoded from an object whose members are found by name, unknown members being ignored and a known one occurring at most once, or from the array of its members in order, which may end early. Each member of a record is a slot: a required one must be given, an optional one may be left out of an object or be null, and one with a default may be left out of both. A variant is decoded from its name, or from an object whose only member has that name and holds the content.
-/

namespace ObjectStore.Json

/-- A member of a record as it was found. -/
inductive Slot where
  | given (value : Json)
  /-- The object has no such member. -/
  | absent
  /-- The array ended before this member. -/
  | cutOff

namespace Slot

def required {α : Type} (decode : Json → Option α) : Slot → Option α
  | given value => decode value
  | _ => none

def optional {α : Type} (decode : Json → Option α) : Slot → Option (Option α)
  | given null => some none
  | given value => (decode value).map some
  | absent => some none
  | cutOff => none

def withDefault {α : Type} (default : α) (decode : Json → Option α) : Slot → Option α
  | given value => decode value
  | _ => some default

end Slot

/-- Whether the name occurs at most once. -/
def atMostOnce (members : List (String × Json)) (name : String) : Bool :=
  (members.filter fun member => member.1 == name).length ≤ 1

/-- The slots of the record with the given member names. -/
def slots (names : List String) : Json → Option (List Slot)
  | obj members =>
    if names.all (atMostOnce members) then
      some (names.map fun name => match members.lookup name with
        | some value => .given value
        | none => .absent)
    else none
  | arr items =>
    if items.length ≤ names.length then
      some (items.map .given ++ List.replicate (names.length - items.length) .cutOff)
    else none
  | _ => none

/-- The name of a variant and its content. -/
def variant? : Json → Option (String × Option Json)
  | str name => some (name, none)
  | obj [(name, content)] => some (name, some content)
  | _ => none

/-- A variant without content, which may also be written as an object with a null. -/
def constant {α : Type} (constants : List (String × α)) (json : Json) : Option α :=
  match json.variant? with
  | some (name, none) => constants.lookup name
  | some (name, some null) => constants.lookup name
  | _ => none

def asString : Json → Option String
  | str s => some s
  | _ => none

def asBool : Json → Option Bool
  | bool b => some b
  | _ => none

def asUInt64 : Json → Option UInt64
  | int n => if 0 ≤ n && n < 0x10000000000000000 then some (UInt64.ofNat n.toNat) else none
  | _ => none

def asInt64 : Json → Option Int64
  | int n => Number.int64? n
  | _ => none

def asDouble : Json → Option Double
  | int n => (Double.ofInt n).finite?
  | double d => d.finite?
  | _ => none

def asList {α : Type} (decode : Json → Option α) : Json → Option (List α)
  | arr items => items.mapM decode
  | _ => none

/-- The value of something that may be missing. -/
def ofOption {α : Type} (encode : α → Json) : Option α → Json
  | some value => encode value
  | none => null

def ofUInt64 (n : UInt64) : Json :=
  int n.toNat

/-- A number, of which there are only finite ones. -/
def ofDouble (d : Double) : Json :=
  if d.isFinite then double d else null

end ObjectStore.Json
