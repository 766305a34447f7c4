import Coselect.Text.Chinese
import Coselect.Text.CodePages
import Coselect.Text.Japanese
import Coselect.Text.Korean

/-! Encodings of seven bits that switch between sets of characters. Most of them announce a set
with an escape sequence, and one switches between ASCII and Chinese with a tilde. -/

namespace Coselect.Text

/-- A set of characters that bytes can be made to stand for. -/
inductive CharacterSet
  | ascii
  /-- ASCII with two characters of its own. -/
  | roman
  | narrow
  | basicJapanese
  | supplementaryJapanese
  | extendedJapanese (revised : Bool)
  | secondJapanese
  | korean
  | chinese
  | latin
  | greek
  deriving DecidableEq, Repr

namespace CharacterSet

def isPaired : CharacterSet → Bool
  | ascii | roman | narrow | latin | greek => false
  | _ => true

/-- The characters of a byte below 0x80, when one byte is enough. -/
def single? : CharacterSet → UInt8 → Option Char
  | ascii, b => some (Char.ofNat b.toNat)
  | roman, b =>
    some (if b = 0x5c then '¥' else if b = 0x7e then '‾' else Char.ofNat b.toNat)
  | narrow, b => Japanese.narrow? (b + 0x80)
  | _, _ => none

/-- The characters of two bytes by their number. -/
def pair? : CharacterSet → Nat → Option (List Char)
  | basicJapanese, code => (Codes.inRuns? Codes.jisX0208 code).map ([·])
  | supplementaryJapanese, code => (Codes.inRuns? Codes.jisX0212 code).map ([·])
  | extendedJapanese revised, code => Japanese.extendedFirst? revised code
  | secondJapanese, code => (Japanese.extendedSecond? true code).map ([·])
  | korean, code => (Codes.inRuns? Codes.ksX1001 code).map ([·])
  | chinese, code => (Chinese.gb2312? (code + 0x8080)).map ([·])
  | _, _ => none

/-- Codes of the upper half of the Greek set that got a character only later. -/
def laterGreek : List UInt8 := [0x24, 0x25, 0x2a]

/-- A character of the upper half of a set, by a byte of the lower half. -/
def upper? : CharacterSet → UInt8 → Option Char
  | ascii, b => Front.ascii? b
  | latin, b => (Front.ascii? b).map fun _ => Char.ofNat (b.toNat + 0x80)
  | greek, b =>
    if 0x80 ≤ b then some (Char.ofNat (b.toNat - 0x80))
    else match codePages.find? (·.names.head? == some "iso8859_7"), laterGreek.contains b with
      | some p, false => p.high.toList[b.toNat]?.filter (· != replacement)
      | _, _ => none
  | _, _ => none

end CharacterSet

inductive Switching
  | tilde
  | korean
  /-- The sets by the last letters of their escape sequences, those of one byte and those of
  two, and whether one of them can be called in for single characters. -/
  | japanese (single paired : List (Char × CharacterSet)) (lendsOne : Bool)
  deriving DecidableEq, Repr

namespace Switching

def japaneseBasic : List (Char × CharacterSet) := [('B', .basicJapanese), ('@', .basicJapanese)]

def iso2022Jp : Switching := japanese [('J', .roman)] japaneseBasic false

def iso2022Jp1 : Switching :=
  japanese [('J', .roman)] (japaneseBasic ++ [('D', .supplementaryJapanese)]) false

def iso2022Jp2 : Switching :=
  japanese [('J', .roman), ('A', .latin), ('F', .greek)]
    (japaneseBasic ++ [('D', .supplementaryJapanese), ('C', .korean), ('A', .chinese)]) true

def iso2022JpExt : Switching :=
  japanese [('J', .roman), ('I', .narrow)]
    (japaneseBasic ++ [('D', .supplementaryJapanese)]) false

def iso2022Jp3 : Switching :=
  japanese [] [('B', .basicJapanese), ('O', .extendedJapanese false), ('P', .secondJapanese)]
    false

def iso2022Jp2004 : Switching :=
  japanese [] [('B', .basicJapanese), ('Q', .extendedJapanese true), ('P', .secondJapanese)]
    false

def singleSets : Switching → List (Char × CharacterSet)
  | japanese single _ _ => ('B', .ascii) :: single
  | _ => [('B', .ascii)]

def pairedSets : Switching → List (Char × CharacterSet)
  | japanese _ paired _ => paired
  | korean => [('C', .korean)]
  | tilde => []

def lendsOne : Switching → Bool
  | japanese _ _ one => one
  | _ => false

/-- The sets called in. -/
structure State where
  main : CharacterSet := .ascii
  other : CharacterSet := .ascii
  lent : CharacterSet := .ascii
  /-- The other set is in use. -/
  shifted : Bool := false
  /-- Within an escape sequence of no known kind. -/
  passing : Bool := false

def isEnd (b : UInt8) : Bool := (0x41 ≤ b && b ≤ 0x5a) || b == 0x40

/-- How many bytes behind the first an escape sequence has, of those at hand; `left` bounds
them. A Japanese one may hold the announcement of a revision. -/
def sequenceLength (revisions : Bool) : Nat → List UInt8 → Option Nat
  | 0, _ => some 0
  | _, [] => none
  | left + 1, b :: bs =>
    if isEnd b then some 1
    else match revisions && b == 0x26, bs with
      | true, 0x40 :: _ :: rest =>
        (sequenceLength revisions (left - 2) rest).map fun n => if n = 0 then 0 else n + 3
      | true, [0x40] => if left ≤ 2 then some 0 else none
      | _, bs => (sequenceLength revisions left bs).map fun n => if n = 0 then 0 else n + 1

/-- The state behind an escape sequence, given without its first byte. The announcement of a
revision stands before the sequence that it belongs to. -/
def called? (e : Switching) (s : State) : List UInt8 → Option State
  | [0x24, c] => (set? e.pairedSets c).map fun x => { s with main := x }
  | [0x28, c] => (set? e.singleSets c).map fun x => { s with main := x }
  | [0x29, c] => (set? e.singleSets c).map fun x => { s with other := x }
  | [0x2e, c] => if e.lendsOne then (set? e.singleSets c).map fun x => { s with lent := x } else none
  | [0x24, 0x28, c] => (set? e.pairedSets c).map fun x => { s with main := x }
  | [0x24, 0x29, c] => (set? e.pairedSets c).map fun x => { s with other := x }
  | [_, _, 0x1b, 0x24, 0x42] =>
    match e with
    | japanese _ _ _ => (set? e.pairedSets 0x42).map fun x => { s with main := x }
    | _ => none
  | _ => none
where
  set? (sets : List (Char × CharacterSet)) (c : UInt8) : Option CharacterSet :=
    sets.lookup (Char.ofNat c.toNat)

/-- A sequence without a meaning becomes one replacement character. -/
def escapeFront (e : Switching) (s : State) (bs : List UInt8) : Front × State :=
  let revisions := match e with
    | japanese _ _ _ => true
    | _ => false
  match bs with
  | [] => (.broken bs, s)
  | b :: rest =>
    if b == 0x28 || b == 0x29 || b == 0x24 || b == 0x2e || b == 0x26 then
      match sequenceLength revisions 15 bs with
      | none => (.broken bs, s)
      | some 0 => (.stray, s)
      | some n =>
        match called? e s (bs.take n) with
        | some s => (⟨[], n⟩, s)
        | none => (⟨[replacement], n⟩, s)
    else if e.lendsOne && b == 0x4e then
      match rest with
      | [] => (.broken bs, s)
      | c :: _ =>
        match s.lent.upper? c with
        | some ch => (⟨[ch], 2⟩, s)
        | none => (⟨[replacement], 2⟩, s)
    else (.single '\x1b', { s with passing := true })

def setFront (set : CharacterSet) (b : UInt8) (bs : List UInt8) : Front :=
  match set.isPaired, bs with
  | false, _ => .single ((set.single? b).getD replacement)
  | true, [] => .broken bs
  | true, c :: _ => ⟨(set.pair? (256 * b.toNat + c.toNat)).getD [replacement], 1⟩

def announcedFront (e : Switching) (s : State) (b : UInt8) (bs : List UInt8) : Front × State :=
  let char := Char.ofNat b.toNat
  if s.passing then (.single char, { s with passing := !isEnd b })
  else if b = 0x1b then escapeFront e s bs
  else if b = 0x0f && e = korean then ({ chars := [] }, { s with shifted := false })
  else if b = 0x0e && e = korean then ({ chars := [] }, { s with shifted := true })
  else if b = 0x0a then (.single char, { s with shifted := false })
  else if b < 0x20 then (.single char, s)
  else if 0x80 ≤ b then (.stray, s)
  else (setFront (if s.shifted then s.other else s.main) b bs, s)

/-- In this state of a tilde's encoding the second set is in use. -/
def tildeFront (s : State) (b : UInt8) (bs : List UInt8) : Front × State :=
  if b = 0x7e then
    match s.shifted, bs with
    | _, [] => (.broken bs, s)
    | false, 0x7e :: _ => (⟨['~'], 1⟩, s)
    | false, 0x7b :: _ => (⟨[], 1⟩, { s with shifted := true })
    | false, 0x0a :: _ => (⟨[], 1⟩, s)
    | true, 0x7d :: _ => (⟨[], 1⟩, { s with shifted := false })
    | _, _ => (.stray, s)
  else if 0x80 ≤ b then (.stray, s)
  else if s.shifted then
    match bs with
    | [] => (.broken bs, s)
    | c :: _ =>
      match CharacterSet.chinese.pair? (256 * b.toNat + c.toNat) with
      | some cs => (⟨cs, 1⟩, s)
      | none => (.stray, s)
  else (.single (Char.ofNat b.toNat), s)

def decode (e : Switching) (bs : List UInt8) : List Char :=
  match e with
  | tilde => decodeFronts tildeFront {} bs
  | e => decodeFronts (announcedFront e) {} bs

end Switching

end Coselect.Text
