import Coselect.Json.Basic
import Coselect.Number.Shortest
import Coselect.Text.Quoted

/-! Texts of JSON values: the JSON text itself, and the form shown in messages, where
strings stand in quotes and the names are `None`, `True` and `False`. -/

namespace Coselect.Json

def escapedChar (c : Char) : List Char :=
  if c == '"' || c == '\\' then ['\\', c]
  else if c == '\n' then ['\\', 'n']
  else if c.toNat < 32 || c.toNat == 127 then Text.hexEscape 'u' 4 c
  else [c]

def stringText (s : String) : String :=
  String.ofList ('"' :: s.toList.flatMap escapedChar ++ ['"'])

mutual

def render : Json → String
  | null => "null"
  | bool b => if b then "true" else "false"
  | int i => Number.decimalInt i
  | float x => Number.shortest x
  | str s => stringText s
  | arr xs => "[" ++ renderItems xs ++ "]"
  | obj fs => "\x7b" ++ renderFields fs ++ "\x7d"

def renderItems : List Json → String
  | [] => ""
  | [x] => render x
  | x :: xs => render x ++ "," ++ renderItems xs

def renderFields : List (String × Json) → String
  | [] => ""
  | [(k, v)] => stringText k ++ ":" ++ render v
  | (k, v) :: fs => stringText k ++ ":" ++ render v ++ "," ++ renderFields fs

end

mutual

/-- A value as messages show it. -/
def display : Json → String
  | null => "None"
  | bool b => if b then "True" else "False"
  | int i => Number.decimalInt i
  | float x => Number.shortest x
  | str s => Text.quoted s
  | arr xs => "[" ++ displayItems xs ++ "]"
  | obj fs => "\x7b" ++ displayFields fs ++ "\x7d"

def displayItems : List Json → String
  | [] => ""
  | [x] => display x
  | x :: xs => display x ++ ", " ++ displayItems xs

def displayFields : List (String × Json) → String
  | [] => ""
  | [(k, v)] => Text.quoted k ++ ": " ++ display v
  | (k, v) :: fs => Text.quoted k ++ ": " ++ display v ++ ", " ++ displayFields fs

end

/-- A value as plain text: a string as it is, anything else as messages show it. -/
def plain : Json → String
  | str s => s
  | v => display v

/-- The name of a value's type, as messages quote it. -/
def typeName : Json → String
  | null => "NoneType"
  | bool _ => "bool"
  | int _ => "int"
  | float _ => "float"
  | str _ => "str"
  | arr _ => "list"
  | obj _ => "dict"

def typeText (v : Json) : String := Text.quoted v.typeName

end Coselect.Json
