import Coselect.Text.Wide

/-! Punycode: the ASCII characters of a text, a hyphen, and digits that tell for every other
character its code point and its place. -/

namespace Coselect.Text.Punycode

def digit? (c : Char) : Option Nat :=
  if c.isAlpha then some (c.toUpper.toNat - 'A'.toNat)
  else if c.isDigit then some (c.toNat - '0'.toNat + 26)
  else none

/-- Where the digit at place `j` stops being the last one. -/
def threshold (j bias : Nat) : Nat := max 1 (min 26 (36 * (j + 1) - bias))

/-- A number of digits whose weights depend on the bias, and what follows it. -/
def number? (bias : Nat) : Nat → Nat → Nat → List Char → Option (Nat × List Char)
  | _, _, _, [] => none
  | j, weight, n, c :: cs =>
    match digit? c with
    | none => none
    | some d =>
      let t := threshold j bias
      let n := n + d * weight
      if d < t then some (n, cs) else number? bias (j + 1) (weight * (36 - t)) n cs

theorem number?_shorter {bias j weight n m : Nat} {cs rest : List Char}
    (h : number? bias j weight n cs = some (m, rest)) : rest.length < cs.length := by
  induction cs generalizing j weight n with
  | nil => simp [number?] at h
  | cons c cs ih =>
    simp only [number?] at h
    split at h
    · simp at h
    · split at h
      · simp only [Option.some.injEq, Prod.mk.injEq] at h
        simp [h.2]
      · exact Nat.lt_succ_of_lt (ih h)

/-- The bias after a number, which follows the size of the numbers. -/
def biasFrom (divisions delta : Nat) : Nat :=
  if 455 < delta then biasFrom (divisions + 36) (delta / 35)
  else divisions + 36 * delta / (delta + 38)
termination_by delta
decreasing_by omega

def nextBias (isFirst : Bool) (delta count : Nat) : Nat :=
  let delta := delta / if isFirst then 700 else 2
  biasFrom 0 (delta + delta / count)

/-- The text with the characters that the digits tell put in. `place` is the place behind the
last one put in, and a question mark stands for what is beyond all characters. Where the
digits break off, the text stays as it is. -/
def insertAll (isFirst : Bool) (code place bias : Nat) (text digits : List Char) : List Char :=
  match _ : number? bias 0 1 0 digits with
  | none => text
  | some (delta, rest) =>
    let count := text.length + 1
    let next := code + (place + delta) / count
    let code := if 0x10ffff < next then '?'.toNat else next
    let place := (place + delta) % count
    insertAll false code (place + 1) (nextBias isFirst delta count)
      (text.take place ++ ofUnit32 code :: text.drop place) rest
termination_by digits.length
decreasing_by exact number?_shorter (by assumption)

/-- The text of some bytes, none when the digits are not of ASCII. -/
def decode (bs : List UInt8) : Option (List Char) :=
  let digits := (bs.reverse.takeWhile (· != 0x2d)).reverse
  let base := bs.take (bs.length - digits.length - 1)
  if digits.all (· < 0x80) then
    some (insertAll true 0x80 0 72
      (base.map fun b => if b < 0x80 then Char.ofNat b.toNat else replacement)
      (digits.map fun b => Char.ofNat b.toNat))
  else none

end Coselect.Text.Punycode
