import Coselect.Text.Basic

/-! The names of characters that follow one another, as the name tables hold them. -/

namespace Coselect.Text

/-- What the names of all characters from `first` on begin with and, divided by commas, how
each of them goes on. -/
structure NameRun where
  first : Nat
  stem : String
  ends : String
  deriving DecidableEq, Repr

/-- The code point with a name, when it is one of the run's. -/
def NameRun.codeOf? (r : NameRun) (name : List Char) : Option Nat :=
  match afterStart r.stem.toList name with
  | some ending => ((splitAt ',' r.ends.toList).idxOf? ending).map (r.first + ·)
  | none => none

end Coselect.Text
