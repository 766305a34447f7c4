import Coselect.Text.CaseRanges

/-! Full lowercase of a text. Only two characters need more than the table: the dotted
capital I becomes two characters, and a capital sigma is final when a letter with
case comes before it and none after it, case-ignorable characters aside. -/

namespace Coselect.Text

def lowerChar (c : Char) : Char :=
  if c.toNat < 128 then c.toLower
  else match lowercaseRows.find? fun (a, b, s, _) =>
      a ≤ c.toNat && c.toNat ≤ b && (c.toNat - a) % s == 0 with
    | some (_, _, _, d) => Char.ofNat (Int.ofNat c.toNat + d).toNat
    | none => c

def meetsCased (cs : List Char) : Bool :=
  match cs.find? (!caseIgnorableRanges.has ·) with
  | some c => casedRanges.has c
  | none => false

/-- Lowercase of the second argument after the characters of the first, nearest first. -/
def lowerAfter : List Char → List Char → List Char
  | _, [] => []
  | before, c :: rest =>
    let low :=
      if c == 'Σ' && meetsCased before && !meetsCased rest then ['ς']
      else if c == 'İ' then ['i', '\u0307']
      else [lowerChar c]
    low ++ lowerAfter (c :: before) rest

def lower (s : String) : String := String.ofList (lowerAfter [] s.toList)

end Coselect.Text
