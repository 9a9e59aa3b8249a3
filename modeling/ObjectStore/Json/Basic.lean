import ObjectStore.Number.Double

/-!
# JSON values

A JSON value keeps what decoding needs: whole numbers apart from the others, members in the order in which they were written, and repeated members. The depth of a value bounds every recursion over its parts.
-/

namespace ObjectStore

/-- An `int` is a whole number written without point and exponent that fits 64 bits, signed or unsigned; every other number is a `double`. -/
inductive Json where
  | null
  | bool (value : Bool)
  | int (value : Int)
  | double (value : Double)
  | str (value : String)
  | arr (items : List Json)
  | obj (members : List (String × Json))
  deriving Inhabited

namespace Json

mutual

/-- The number of levels of arrays and objects, a value without parts having one. -/
def depth : Json → Nat
  | arr items => itemsDepth items + 1
  | obj members => membersDepth members + 1
  | _ => 1

def itemsDepth : List Json → Nat
  | [] => 0
  | item :: rest => max item.depth (itemsDepth rest)

def membersDepth : List (String × Json) → Nat
  | [] => 0
  | (_, value) :: rest => max value.depth (membersDepth rest)

end

/-- The value of the member with the given name. -/
def member? (name : String) : Json → Option Json
  | obj members => members.lookup name
  | _ => none

def isNull : Json → Bool
  | null => true
  | _ => false

end Json

end ObjectStore
