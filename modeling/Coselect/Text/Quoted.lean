import Coselect.Number.Digits
import Coselect.Text.CharClass

/-! A text in quotes, with everything unprintable escaped. The quote is single unless the
text holds single quotes and no double ones. -/

namespace Coselect.Text

def hexEscape (letter : Char) (width : Nat) (c : Char) : List Char :=
  '\\' :: letter :: Number.padStart width (Number.digits 16 c.toNat)

def quotedChar (quote c : Char) : List Char :=
  if c == quote || c == '\\' then ['\\', c]
  else if c == '\n' then ['\\', 'n']
  else if c == '\r' then ['\\', 'r']
  else if c == '\t' then ['\\', 't']
  else if isPrintable c then [c]
  else if c.toNat < 0x100 then hexEscape 'x' 2 c
  else if c.toNat < 0x10000 then hexEscape 'u' 4 c
  else hexEscape 'U' 8 c

def quoteFor (cs : List Char) : Char :=
  if cs.contains '\'' && !cs.contains '"' then '"' else '\''

def quoted (s : String) : String :=
  let q := quoteFor s.toList
  String.ofList (q :: s.toList.flatMap (quotedChar q) ++ [q])

end Coselect.Text
