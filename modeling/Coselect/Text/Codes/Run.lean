/-! Tables from codes to characters. -/

namespace Coselect.Text

/-- The characters of successive codes, where a replacement character stands for none. -/
structure CodeRun where
  first : Nat
  chars : String
  deriving DecidableEq, Repr

/-- Successive codes of successive characters, of which the first is `char`. -/
structure CodeSpan where
  first : Nat
  last : Nat
  char : Nat
  deriving DecidableEq, Repr

def CodeRun.char? (r : CodeRun) (code : Nat) : Option Char :=
  if r.first ≤ code && code / 256 == r.first / 256 then
    r.chars.toList[code - r.first]?.filter (· != '\ufffd')
  else none

def CodeSpan.char? (s : CodeSpan) (code : Nat) : Option Char :=
  if s.first ≤ code && code ≤ s.last then some (Char.ofNat (s.char + (code - s.first))) else none

namespace Codes

def inRuns? (runs : List CodeRun) (code : Nat) : Option Char := runs.findSome? (·.char? code)

def inSpans? (spans : List CodeSpan) (code : Nat) : Option Char := spans.findSome? (·.char? code)

def inPairs? (pairs : List (Nat × String)) (code : Nat) : Option (List Char) :=
  (pairs.lookup code).map String.toList

end Codes

end Coselect.Text
