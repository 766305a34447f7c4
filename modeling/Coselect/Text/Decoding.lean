/-! Bytes read as text. UTF-8 is read by a machine that knows how many octets it is still
owed and the bounds of the next one; a sequence that breaks off or cannot go on becomes
one replacement character, and the octet that broke it is read afresh. -/

namespace Coselect.Text

def replacement : Char := Char.ofNat 0xfffd

/-- The octets owed to a character begun, the bounds of the next one, and the bits read. -/
structure Pending where
  owed : Nat
  low : Nat
  high : Nat
  bits : Nat

namespace Pending

def none : Pending := ⟨0, 0, 0, 0⟩

/-- Reads an octet between characters. -/
def opening (b : Nat) : List Char × Pending :=
  if b < 0x80 then ([Char.ofNat b], none)
  else if b < 0xc2 then ([replacement], none)
  else if b < 0xe0 then ([], ⟨1, 0x80, 0xbf, b - 0xc0⟩)
  else if b < 0xf0 then
    ([], ⟨2, if b = 0xe0 then 0xa0 else 0x80, if b = 0xed then 0x9f else 0xbf, b - 0xe0⟩)
  else if b < 0xf5 then
    ([], ⟨3, if b = 0xf0 then 0x90 else 0x80, if b = 0xf4 then 0x8f else 0xbf, b - 0xf0⟩)
  else ([replacement], none)

/-- The characters finished by an octet, and what is owed after it. -/
def read (p : Pending) (b : Nat) : List Char × Pending :=
  if p.owed = 0 then opening b
  else if p.low ≤ b ∧ b ≤ p.high then
    let bits := p.bits * 64 + (b - 0x80)
    if p.owed = 1 then ([Char.ofNat bits], none) else ([], ⟨p.owed - 1, 0x80, 0xbf, bits⟩)
  else
    let (cs, q) := opening b
    (replacement :: cs, q)

end Pending

def decodeFrom (p : Pending) : List UInt8 → List Char
  | [] => if p.owed = 0 then [] else [replacement]
  | b :: bs =>
    let (cs, q) := p.read b.toNat
    cs ++ decodeFrom q bs

end Coselect.Text
