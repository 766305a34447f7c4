import Coselect.Text.HiddenRanges
import Coselect.Text.WordRanges

/-! The classes of characters the scanners and patterns ask for. Blank characters are
those with bidirectional class WS, B or S or of category Zs; word characters are
letters, numbers and the underscore. ASCII is decided without the tables. -/

namespace Coselect.Text

def blankRanges : CharRanges :=
  [(0x9, 0xd), (0x1c, 0x20), (0x85, 0x85), (0xa0, 0xa0), (0x1680, 0x1680), (0x2000, 0x200a),
   (0x2028, 0x2029), (0x202f, 0x202f), (0x205f, 0x205f), (0x3000, 0x3000)]

def isBlank (c : Char) : Bool := blankRanges.has c

def isDecimalDigit (c : Char) : Bool :=
  c.isDigit || (128 ≤ c.toNat && decimalDigitRanges.has c)

def isWord (c : Char) : Bool :=
  c.isAlphanum || c == '_' || (128 ≤ c.toNat && letterOrNumberRanges.has c)

/-- Characters of an identifier, where the dollar sign counts as a letter. -/
def isName (c : Char) : Bool := isWord c || c == '$'

def isPrintable (c : Char) : Bool :=
  if c.toNat < 127 then 32 ≤ c.toNat else !hiddenRanges.has c

end Coselect.Text
