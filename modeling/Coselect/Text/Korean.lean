import Coselect.Text.Codes.KsX1001
import Coselect.Text.Front

/-! Encodings of Korean. Two of them share a set of characters with some of the syllables; one
of these gives the other syllables codes of their own, in their usual order, and the other
spells them out. The third puts syllables together from their parts. -/

namespace Coselect.Text

inductive Korean
  | eucKr
  | cp949
  | johab
  deriving DecidableEq, Repr

namespace Korean

open Codes

def syllable (initial medial final : Nat) : Char :=
  Char.ofNat (0xac00 + (initial * 21 + medial) * 28 + final)

/-- The syllables with a code in the common set, in their usual order. -/
def commonSyllables : List Char :=
  ksX1001.flatMap fun r =>
    if 0x3021 ≤ r.first && r.first < 0x4921 then r.chars.toList else []

/-- What is left of the numbers from `n` on, `count` of them, when some are taken out, both in
ascending order. -/
def without : Nat → Nat → List Nat → List Nat
  | 0, _, _ => []
  | count + 1, n, [] => n :: without count (n + 1) []
  | count + 1, n, m :: ms =>
    if n = m then without count (n + 1) ms else n :: without count (n + 1) (m :: ms)

def otherSyllables : List Char :=
  (without 11172 0xac00 (commonSyllables.map Char.toNat)).map Char.ofNat

/-- The place of a second byte among letters and high bytes. -/
def trail? (b : Nat) : Option Nat :=
  if 0x41 ≤ b && b ≤ 0x5a then some (b - 0x41)
  else if 0x61 ≤ b && b ≤ 0x7a then some (b - 0x61 + 26)
  else if 0x81 ≤ b && b ≤ 0xfe then some (b - 0x81 + 52)
  else none

def otherSyllable? (code : Nat) : Option Char :=
  let a := code / 256
  match trail? (code % 256) with
  | none => none
  | some t =>
    if 0x81 ≤ a && a ≤ 0xa0 then otherSyllables[(a - 0x81) * 178 + t]?
    else if 0xa1 ≤ a && a ≤ 0xc6 && t < 84 then otherSyllables[32 * 178 + (a - 0xa1) * 84 + t]?
    else none

def common? (code : Nat) : Option Char :=
  if 0xa1 ≤ code / 256 && 0xa1 ≤ code % 256 then inRuns? ksX1001 (code - 0x8080) else none

/-- The places of the letters of the common set among the first consonants of syllables. -/
def initialOfLetter : List (Option Nat) :=
  [some 0, some 1, none, some 2, none, none, some 3, some 4, some 5, none, none, none, none,
   none, none, none, some 6, some 7, some 8, none, some 9, some 10, some 11, some 12, some 13,
   some 14, some 15, some 16, some 17, some 18]

/-- Their places among the last consonants. -/
def finalOfLetter : List (Option Nat) :=
  [some 1, some 2, some 3, some 4, some 5, some 6, some 7, none, some 8, some 9, some 10,
   some 11, some 12, some 13, some 14, some 15, some 16, some 17, none, some 18, some 19,
   some 20, some 21, some 22, none, some 23, some 24, some 25, some 26, some 27]

def letterPlace? (places : List (Option Nat)) (b : UInt8) : Option Nat :=
  if 0xa1 ≤ b then (places[b.toNat - 0xa1]?).join else none

/-- A syllable of which each part is spelt with a letter behind a filler. -/
def spelt? (i m f : UInt8) : Option Char :=
  let final? := if f = 0xd4 then some 0 else letterPlace? finalOfLetter f
  match letterPlace? initialOfLetter i, final? with
  | some i, some f =>
    if 0xbf ≤ m && m ≤ 0xd3 then some (syllable i (m.toNat - 0xbf) f) else none
  | _, _ => none

/-- A five-bit part of a code put together from parts. -/
inductive Part
  | filler
  | of (place : Nat)

def initialPart? (n : Nat) : Option Part :=
  if n = 1 then some .filler else if 2 ≤ n && n ≤ 20 then some (.of (n - 2)) else none

/-- The vowels stand in groups, at the beginning of each of which two numbers stay free. -/
def medialPart? (n : Nat) : Option Part :=
  if n = 2 then some .filler
  else if 3 ≤ n && n ≤ 29 && 2 ≤ n % 8 then some (.of (n - 3 - 2 * (n / 8)))
  else none

def finalPart? (n : Nat) : Option Part :=
  if n = 1 then some .filler
  else if 2 ≤ n && n ≤ 17 then some (.of (n - 1))
  else if 19 ≤ n && n ≤ 29 then some (.of (n - 2))
  else none

/-- The letter of a place among the first or the last consonants. -/
def letterOf? (places : List (Option Nat)) (place : Nat) : Option Char :=
  (places.idxOf? (some place)).map fun n => Char.ofNat (0x3131 + n)

/-- A syllable or, when its other parts are fillers, a letter. -/
def assembled? (code : Nat) : Option Char :=
  match initialPart? (code / 1024 % 32), medialPart? (code / 32 % 32), finalPart? (code % 32) with
  | some (.of i), some (.of m), some (.of f) => some (syllable i m f)
  | some (.of i), some (.of m), some .filler => some (syllable i m 0)
  | some .filler, some .filler, some .filler => some '\u3000'
  | some .filler, some .filler, some (.of f) => letterOf? finalOfLetter f
  | some .filler, some (.of m), some .filler => some (Char.ofNat (0x314f + m))
  | some (.of i), some .filler, some .filler => letterOf? initialOfLetter i
  | _, _, _ => none

/-- The characters that are not put together, two rows of the common set to a first byte. -/
def johabSymbol? (a b : Nat) : Option Char :=
  if a < 0xd9 || a = 0xdf || 0xf9 < a || b < 0x31 || (0x80 ≤ b && b < 0x91) || b % 128 = 0x7f ||
      (a = 0xda && 0xa1 ≤ b && b ≤ 0xd3) then none
  else
    let row := if a < 0xe0 then 2 * (a - 0xd9) else 2 * a - 0x197
    let column := if b < 0x91 then b - 0x31 else b - 0x43
    inRuns? ksX1001 (256 * (row + column / 94 + 0x21) + column % 94 + 0x21)

def pair? : Korean → Nat → Option Char
  | eucKr, code => common? code
  | cp949, code => (common? code).or (otherSyllable? code)
  | johab, code =>
    if code / 256 < 0xd8 then assembled? code else johabSymbol? (code / 256) (code % 256)

/-- A syllable that is spelt takes four times two bytes. -/
def front (e : Korean) (a : UInt8) (bs : List UInt8) : Front :=
  match e, a, bs with
  | eucKr, 0xa4, 0xd4 :: rest =>
    match rest with
    | x :: i :: y :: m :: z :: f :: _ =>
      match x == 0xa4 && y == 0xa4 && z == 0xa4, spelt? i m f with
      | true, some c => ⟨[c], 7⟩
      | _, _ => .stray
    | _ => .broken bs
  | e, a, bs => .ofPairs Front.ascii? (fun code => (e.pair? code).map ([·])) a bs

end Korean

end Coselect.Text
