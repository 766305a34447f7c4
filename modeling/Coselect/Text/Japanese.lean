import Coselect.Text.Codes.Cp932
import Coselect.Text.Codes.JisX0208
import Coselect.Text.Codes.JisX0212
import Coselect.Text.Codes.JisX0213
import Coselect.Text.Front

/-! Encodings of Japanese. All give the characters of the same sets, arranged in rows and
columns, and differ in how bytes name a row and a column. -/

namespace Coselect.Text

/-- In the encodings of the extended set, whether the revision is in it that gave ten more codes
a character. -/
inductive Japanese
  | shiftJis
  | cp932
  | extendedShiftJis (revised : Bool)
  | eucJp
  | extendedEucJp (revised : Bool)
  deriving DecidableEq, Repr

namespace Japanese

open Codes

def givenByRevision : List Nat :=
  [0x2e21, 0x2f7e, 0x4f54, 0x4f7e, 0x7427, 0x7e7a, 0x7e7b, 0x7e7c, 0x7e7d, 0x7e7e]

/-- The first plane of the extended set. A code that waits for the revision counts as read. -/
def extendedFirst? (revised : Bool) (code : Nat) : Option (List Char) :=
  if !revised && givenByRevision.contains code then some [replacement]
  else (inPairs? jisX0213Pairs code).or
    (((inRuns? jisX0208 code).or (inRuns? jisX0213 code)).map ([·]))

def extendedSecond? (revised : Bool) (code : Nat) : Option Char :=
  if !revised && code = 0x7d3b then some '\u9b1d' else inRuns? jisX0213Second code

/-- A character of half the usual width. -/
def narrow? (b : UInt8) : Option Char :=
  if 0xa1 ≤ b && b ≤ 0xdf then some (Char.ofNat (0xfec0 + b.toNat)) else none

/-- The row and column, counted from zero, that a shifted code names. -/
def cell? (code : Nat) : Option (Nat × Nat) :=
  let a := code / 256
  let b := code % 256
  if ((0x81 ≤ a && a ≤ 0x9f) || (0xe0 ≤ a && a ≤ 0xfc)) && 0x40 ≤ b && b ≤ 0xfc && b != 0x7f then
    let column := if b < 0x7f then b - 0x40 else b - 0x41
    some (2 * (if a < 0xe0 then a - 0x81 else a - 0xc1) + column / 94, column % 94)
  else none

def codeOf (row column : Nat) : Nat := 256 * (row + 0x21) + (column + 0x21)

/-- The rows of the second plane that have characters. -/
def secondRows : List Nat := [0, 7, 2, 3, 4, 11, 12, 13, 14] ++ (List.range 17).map (77 + ·)

def shifted? (code : Nat) : Option Char :=
  (cell? code).bind fun (row, column) => inRuns? jisX0208 (codeOf row column)

/-- Codes of ten first bytes are for private use. -/
def privateUse? (code : Nat) : Option Char :=
  match cell? code with
  | some (row, column) =>
    if 94 ≤ row && row < 114 then some (Char.ofNat (0xe000 + (row - 94) * 94 + column)) else none
  | none => none

def extendedShifted? (revised : Bool) (code : Nat) : Option (List Char) :=
  (cell? code).bind fun (row, column) =>
    if row < 94 then
      let c := codeOf row column
      if c = 0x2140 then some ['\\'] else extendedFirst? revised c
    else (secondRows[row - 94]?).bind fun r =>
      (extendedSecond? revised (codeOf r column)).map ([·])

def shiftedPair? : Japanese → Nat → Option (List Char)
  | shiftJis, code => (shifted? code).map ([·])
  | cp932, code =>
    (((inRuns? Codes.cp932 code).or (shifted? code)).or (privateUse? code)).map ([·])
  | extendedShiftJis revised, code => extendedShifted? revised code
  | _, _ => none

def shiftedSingle? : Japanese → UInt8 → Option Char
  | cp932, b =>
    if b = 0x80 then some '\u0080'
    else if b = 0xa0 then some '\uf8f0'
    else if 0xfd ≤ b then some (Char.ofNat (0xf8f1 + (b.toNat - 0xfd)))
    else (Front.ascii? b).or (narrow? b)
  | extendedShiftJis _, b =>
    if b = 0x5c then some '¥' else if b = 0x7e then some '‾'
    else (Front.ascii? b).or (narrow? b)
  | _, b => (Front.ascii? b).or (narrow? b)

/-- The code of two bytes that both have their highest bit. -/
def lowered? (code : Nat) : Option Nat :=
  if 0x80 ≤ code / 256 && 0x80 ≤ code % 256 then some (code - 0x8080) else none

def unshiftedPair? : Japanese → Nat → Option (List Char)
  | extendedEucJp revised, code =>
    (lowered? code).bind fun c =>
      if c = 0x2232 then some ['\uff5e'] else extendedFirst? revised c
  | _, code => (lowered? code).bind fun c => (inRuns? jisX0208 c).map ([·])

def unshiftedTriple? : Japanese → Nat → Option Char
  | extendedEucJp revised, code =>
    (lowered? code).bind fun c => (extendedSecond? revised c).or (inRuns? jisX0212 c)
  | _, code => (lowered? code).bind (inRuns? jisX0212)

/-- Two bytes announce a narrow character and one of the further sets. -/
def unshiftedFront (e : Japanese) (a : UInt8) (bs : List UInt8) : Front :=
  match a, bs with
  | 0x8e, b :: _ =>
    match narrow? b with
    | some c => ⟨[c], 1⟩
    | none => .stray
  | 0x8f, b :: c :: _ =>
    match e.unshiftedTriple? (256 * b.toNat + c.toNat) with
    | some c => ⟨[c], 2⟩
    | none => .stray
  | 0x8f, bs => .broken bs
  | a, bs => .ofPairs Front.ascii? e.unshiftedPair? a bs

def front : Japanese → UInt8 → List UInt8 → Front
  | eucJp, a, bs => unshiftedFront eucJp a bs
  | extendedEucJp revised, a, bs => unshiftedFront (extendedEucJp revised) a bs
  | e, a, bs => .ofPairs e.shiftedSingle? e.shiftedPair? a bs

end Japanese

end Coselect.Text
