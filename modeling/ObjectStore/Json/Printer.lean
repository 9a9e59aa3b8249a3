import ObjectStore.Number.Written
import ObjectStore.Json.Basic

/-!
# Writing JSON

A value is written on one line without blanks. In a string the quote, the backslash and the controls are escaped.
-/

namespace ObjectStore.Json

def escapedChar (c : Char) : List Char :=
  if c == '"' || c == '\\' then ['\\', c]
  else if c == '\n' then ['\\', 'n']
  else if c.toNat < 0x20 then
    ['\\', 'u', '0', '0'] ++ (if c.toNat < 0x10 then ['0'] else []) ++ Nat.toDigits 16 c.toNat
  else [c]

def quotedText (s : String) : String :=
  String.ofList ('"' :: s.toList.flatMap escapedChar ++ ['"'])

mutual

def render : Json → String
  | null => "null"
  | bool true => "true"
  | bool false => "false"
  | int n => String.ofList (Number.writeInt n)
  | double d => d.literal
  | str s => quotedText s
  | arr items => "[" ++ renderItems items ++ "]"
  | obj members => "\x7b" ++ renderMembers members ++ "\x7d"

def renderItems : List Json → String
  | [] => ""
  | [item] => item.render
  | item :: rest => item.render ++ "," ++ renderItems rest

def renderMembers : List (String × Json) → String
  | [] => ""
  | [(name, value)] => quotedText name ++ ":" ++ value.render
  | (name, value) :: rest => quotedText name ++ ":" ++ value.render ++ "," ++ renderMembers rest

end

end ObjectStore.Json
