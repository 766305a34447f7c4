import Coselect.Text.Decoding

/-! UTF-7: ASCII, where a plus sign begins a section of digits of six bits each that together
write units of sixteen bits. -/

namespace Coselect.Text.Utf7

/-- The value of a digit of six bits. -/
def digit? (b : UInt8) : Option Nat :=
  if 0x41 ≤ b && b ≤ 0x5a then some (b.toNat - 0x41)
  else if 0x61 ≤ b && b ≤ 0x7a then some (b.toNat - 0x61 + 26)
  else if 0x30 ≤ b && b ≤ 0x39 then some (b.toNat - 0x30 + 52)
  else if b = 0x2b then some 62
  else if b = 0x2f then some 63
  else none

/-- The bits of a section not yet used, their number, and the first half of a character that
takes two units. -/
structure Section where
  bits : Nat := 0
  count : Nat := 0
  half : Option Nat := none

namespace Section

def lone (s : Section) : List Char := if s.half.isSome then [replacement] else []

/-- A unit of sixteen bits. -/
def unit (s : Section) (u : Nat) : List Char × Section :=
  let (high, low) := (0xd800 ≤ u && u < 0xdc00, 0xdc00 ≤ u && u < 0xe000)
  match s.half, low with
  | some h, true =>
    ([Char.ofNat (0x10000 + (h - 0xd800) * 0x400 + (u - 0xdc00))], { s with half := none })
  | _, _ =>
    if high then (s.lone, { s with half := some u })
    else (s.lone ++ [if low then replacement else Char.ofNat u], { s with half := none })

def digit (s : Section) (d : Nat) : List Char × Section :=
  let bits := s.bits * 64 + d
  let count := s.count + 6
  if 16 ≤ count then
    { s with bits := bits % (1 <<< (count - 16)), count := count - 16 }.unit (bits >>> (count - 16))
  else ([], { s with bits := bits, count := count })

/-- Bits are left over that are not padding. -/
def isUnfinished (s : Section) : Bool := 6 ≤ s.count || (0 < s.count && s.bits != 0)

end Section

/-- The text from a place outside a section, or within the one given. -/
def decodeFrom : Option Section → List UInt8 → List Char
  | none, [] => []
  | some s, [] => if s.half.isSome || s.isUnfinished then [replacement] else []
  | none, 0x2b :: 0x2d :: bs => '+' :: decodeFrom none bs
  | none, 0x2b :: b :: bs =>
    match digit? b with
    | some d =>
      let (cs, s) := Section.digit {} d
      cs ++ decodeFrom (some s) bs
    | none => replacement :: decodeFrom none bs
  | none, [0x2b] => []
  | none, b :: bs => (if b < 0x80 then Char.ofNat b.toNat else replacement) :: decodeFrom none bs
  | some s, b :: bs =>
    match digit? b with
    | some d =>
      let (cs, s) := s.digit d
      cs ++ decodeFrom (some s) bs
    | none =>
      if s.isUnfinished then replacement :: decodeFrom none bs
      else
        (if b < 0x80 then s.lone else []) ++
          if b = 0x2d then decodeFrom none bs
          else (if b < 0x80 then Char.ofNat b.toNat else replacement) :: decodeFrom none bs

end Coselect.Text.Utf7
