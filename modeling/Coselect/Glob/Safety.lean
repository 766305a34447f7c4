import Coselect.Glob.Piece

/-! Bounds on globs that keep matching cheap: at most 512 characters, four `**` and
sixteen wildcards, where a longer run of stars counts as one `**`. -/

namespace Coselect.Glob

def maxLength : Nat := 512
def maxGlobstars : Nat := 4
def maxWildcards : Nat := 16

/-- The lengths of the runs of stars; the first argument is that of the run just passed. -/
def starRunsFrom : Nat → List Char → List Nat
  | n, [] => if n = 0 then [] else [n]
  | n, c :: cs =>
    if c == '*' then starRunsFrom (n + 1) cs
    else if n = 0 then starRunsFrom 0 cs else n :: starRunsFrom 0 cs

def starRuns (pattern : List Char) : List Nat := starRunsFrom 0 pattern

def globstars (pattern : List Char) : Nat := (starRuns pattern).countP (2 ≤ ·)

def wildcards (pattern : List Char) : Nat := (starRuns pattern).length + pattern.count '?'

/-- What bounds a pattern breaks. -/
inductive Excess
  | length
  | globstars
  | wildcards
  deriving DecidableEq, Repr

def Excess.reason : Excess → String
  | length => "longer than 512 characters"
  | globstars => "more than 4 '**' segments"
  | wildcards => "more than 16 wildcards"

def excess? (pattern : List Char) : Option Excess :=
  if maxLength < pattern.length then some .length
  else if maxGlobstars < globstars pattern then some .globstars
  else if maxWildcards < wildcards pattern then some .wildcards
  else none

end Coselect.Glob
