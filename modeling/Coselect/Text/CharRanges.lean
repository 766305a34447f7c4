/-! Sets of code points given as closed ranges, lower bound first. -/

namespace Coselect.Text

abbrev CharRanges := List (Nat × Nat)

def CharRanges.has (rs : CharRanges) (c : Char) : Bool :=
  rs.any fun r => r.1 ≤ c.toNat && c.toNat ≤ r.2

end Coselect.Text
