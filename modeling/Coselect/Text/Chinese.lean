import Coselect.Text.Codes.Big5
import Coselect.Text.Codes.Big5Hkscs
import Coselect.Text.Codes.Gb18030
import Coselect.Text.Codes.Gbk
import Coselect.Text.Front

/-! Encodings of Chinese. The simplified ones extend each other, and so do the traditional
ones, save for a few codes. -/

namespace Coselect.Text

inductive Chinese
  | big5
  | big5Hkscs
  | cp950
  | gb2312
  | gbk
  | gb18030
  deriving DecidableEq, Repr

namespace Chinese

open Codes

/-- Codes that the oldest of the simplified encodings leaves free between its own. -/
def gb2312Gaps : List (Nat × Nat) :=
  [(0xa2a1, 0xa2aa), (0xa6e0, 0xa6eb), (0xa6ee, 0xa6f2), (0xa6f4, 0xa6f5), (0xa8bb, 0xa8bb),
   (0xa8bd, 0xa8be), (0xa8c0, 0xa8c0)]

def gb2312? (code : Nat) : Option Char :=
  if code = 0xa1a4 then some '・'
  else if code = 0xa1aa then some '―'
  else if 0xa1a1 ≤ code && code ≤ 0xf7fe && 0xa1 ≤ code % 256 &&
      !(gb2312Gaps.any fun g => g.1 ≤ code && code ≤ g.2) then
    inRuns? Codes.gbk code
  else none

/-- The supplement puts other characters in place of some, or none. -/
def big5Hkscs? (code : Nat) : Option (List Char) :=
  (inPairs? big5HkscsPairs code).or
    (((inRuns? Codes.big5Hkscs code).or
      (if 0xc6a1 ≤ code && code ≤ 0xc8fe then none else inRuns? Codes.big5 code)).map ([·]))

def pair? : Chinese → Nat → Option (List Char)
  | big5, code => (inRuns? Codes.big5 code).map ([·])
  | big5Hkscs, code => big5Hkscs? code
  | cp950, code => ((inRuns? Codes.cp950 code).or (inRuns? Codes.big5 code)).map ([·])
  | gb2312, code => (gb2312? code).map ([·])
  | gbk, code => (inRuns? Codes.gbk code).map ([·])
  | gb18030, code => ((inRuns? Codes.gbk code).or (inSpans? Codes.gb18030 code)).map ([·])

/-- The character of a code of four bytes. -/
def ofFour? (a b c d : Nat) : Option Char :=
  if 0x81 ≤ a && a ≤ 0xfe && 0x81 ≤ c && c ≤ 0xfe && 0x30 ≤ d && d ≤ 0x39 then
    let n := (((a - 0x81) * 10 + (b - 0x30)) * 126 + (c - 0x81)) * 10 + (d - 0x30)
    if n < 50400 then inSpans? gb18030Long n
    else if 189000 ≤ n && n < 189000 + 0x100000 then some (Char.ofNat (n - 189000 + 0x10000))
    else none
  else none

def front (e : Chinese) (a : UInt8) (bs : List UInt8) : Front :=
  match e, bs with
  | gb18030, b :: rest =>
    if 0x80 ≤ a && 0x30 ≤ b && b ≤ 0x39 then
      match rest with
      | c :: d :: _ =>
        match ofFour? a.toNat b.toNat c.toNat d.toNat with
        | some ch => ⟨[ch], 3⟩
        | none => .stray
      | _ => .broken bs
    else .ofPairs Front.ascii? gb18030.pair? a bs
  | e, bs => .ofPairs Front.ascii? e.pair? a bs

end Chinese

end Coselect.Text
