import ObjectStore.Json.Token

/-!
# Reading JSON

The reader consumes one token at a time and keeps the open arrays and objects on a stack, so it is a fold over the tokens. A text is read when its tokens form one value and nothing follows it.
-/

namespace ObjectStore.Json

/-- An open array or object, with the parts read so far in reverse. -/
inductive Frame where
  | array (items : List Json)
  /-- The value of the member `name` is due. -/
  | object (members : List (String × Json)) (name : String)

/-- What may come next, inside the open arrays and objects. -/
inductive Reading where
  | value (stack : List Frame)
  | arrayStart (stack : List Frame)
  | objectStart (stack : List Frame)
  | name (members : List (String × Json)) (stack : List Frame)
  | colon (members : List (String × Json)) (name : String) (stack : List Frame)
  /-- A value is complete. -/
  | complete (value : Json) (stack : List Frame)

/-- The reader after a token where a value is due. -/
def Reading.startValue (stack : List Frame) : Token → Option Reading
  | .scalar v => some (.complete v stack)
  | .text s => some (.complete (str s) stack)
  | .openArray => some (.arrayStart stack)
  | .openObject => some (.objectStart stack)
  | _ => none

def Reading.step : Reading → Token → Option Reading
  | .value stack, token => startValue stack token
  | .arrayStart stack, .closeArray => some (.complete (arr []) stack)
  | .arrayStart stack, token => startValue (.array [] :: stack) token
  | .objectStart stack, .closeObject => some (.complete (obj []) stack)
  | .objectStart stack, .text s => some (.colon [] s stack)
  | .name members stack, .text s => some (.colon members s stack)
  | .colon members s stack, .colon => some (.value (.object members s :: stack))
  | .complete v (.array items :: stack), .comma => some (.value (.array (v :: items) :: stack))
  | .complete v (.array items :: stack), .closeArray => some (.complete (arr (v :: items).reverse) stack)
  | .complete v (.object members s :: stack), .comma => some (.name ((s, v) :: members) stack)
  | .complete v (.object members s :: stack), .closeObject => some (.complete (obj ((s, v) :: members).reverse) stack)
  | _, _ => none

def ofTokens? (tokens : List Token) : Option Json :=
  match tokens.foldlM Reading.step (.value []) with
  | some (.complete value []) => some value
  | _ => none

def read? (s : String) : Option Json :=
  (tokens? s).bind ofTokens?

end ObjectStore.Json
