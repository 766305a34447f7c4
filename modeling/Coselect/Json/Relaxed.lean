import Coselect.Imports.Comment
import Coselect.Json.Reader

/-! Reading JSON with comments and trailing commas: comments are blanked, every comma
before a closing bracket or brace is dropped, and the rest is read as JSON. -/

namespace Coselect.Json

def closesNext (cs : List Char) : Bool :=
  match cs.dropWhile Text.isBlank with
  | c :: _ => c == ']' || c == '\x7d'
  | [] => false

def dropTrailingCommas : List Char → List Char
  | [] => []
  | c :: cs =>
    if c == ',' && closesNext cs then dropTrailingCommas cs else c :: dropTrailingCommas cs

def readRelaxed (text : String) : Except ReadError Json :=
  readChars (dropTrailingCommas (Imports.blankComments text.toList))

end Coselect.Json
