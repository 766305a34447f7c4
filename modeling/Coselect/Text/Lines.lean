import Coselect.Text.Basic

/-! Lines of a text: counting them up to an offset, reading the three line endings as
one, and cutting at every character that ends a line. -/

namespace Coselect.Text

/-- An offset counted from the end when negative, cut to the text's length. -/
def clampOffset (length : Nat) (offset : Int) : Nat :=
  min length (if offset < 0 then (length + offset).toNat else offset.toNat)

/-- The line of a position in a text, from 1. -/
def lineOfPosition (cs : List Char) (position : Nat) : Nat :=
  (cs.take position).count '\n' + 1

def lineAt (text : String) (offset : Int) : Nat :=
  lineOfPosition text.toList (clampOffset text.toList.length offset)

/-- Every carriage return, with a line feed after it or without, becomes one line feed. -/
def unifyLineEnds : List Char → List Char
  | [] => []
  | '\r' :: '\n' :: cs => '\n' :: unifyLineEnds cs
  | '\r' :: cs => '\n' :: unifyLineEnds cs
  | c :: cs => c :: unifyLineEnds cs

def endsLine (c : Char) : Bool :=
  CharRanges.has [(0xa, 0xd), (0x1c, 0x1e), (0x85, 0x85), (0x2028, 0x2029)] c

/-- The lines of a text without their ends; a trailing line end opens no further line. -/
def lineParts : List Char → List (List Char)
  | [] => []
  | '\r' :: '\n' :: cs => [] :: lineParts cs
  | c :: cs =>
    if endsLine c then [] :: lineParts cs
    else match lineParts cs with
      | [] => [[c]]
      | l :: ls => (c :: l) :: ls

def lines (text : String) : List String := (lineParts text.toList).map String.ofList

end Coselect.Text
