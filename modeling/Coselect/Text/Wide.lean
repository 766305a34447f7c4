import Coselect.Text.Decoding

/-! Bytes read as text by units of two or four. A unit that stands for no character becomes one
replacement character, and so does a rest that is too short. -/

namespace Coselect.Text

/-- The order of the bytes of a unit. -/
inductive ByteOrder
  | littleEndian
  | bigEndian
  deriving DecidableEq, Repr

namespace ByteOrder

def unit16 (o : ByteOrder) (a b : UInt8) : Nat :=
  match o with
  | littleEndian => a.toNat + 256 * b.toNat
  | bigEndian => 256 * a.toNat + b.toNat

def unit32 (o : ByteOrder) (a b c d : UInt8) : Nat :=
  match o with
  | littleEndian => o.unit16 a b + 65536 * o.unit16 c d
  | bigEndian => 65536 * o.unit16 a b + o.unit16 c d

/-- The units of two bytes, and whether a byte is left over. -/
def units16 (o : ByteOrder) : List UInt8 → List Nat × Bool
  | a :: b :: bs =>
    let (us, left) := units16 o bs
    (o.unit16 a b :: us, left)
  | [_] => ([], true)
  | [] => ([], false)

/-- The units of four bytes, and whether bytes are left over. -/
def units32 (o : ByteOrder) : List UInt8 → List Nat × Bool
  | a :: b :: c :: d :: bs =>
    let (us, left) := units32 o bs
    (o.unit32 a b c d :: us, left)
  | [] => ([], false)
  | _ => ([], true)

end ByteOrder

def isHighHalf (u : Nat) : Bool := 0xd800 ≤ u && u < 0xdc00
def isLowHalf (u : Nat) : Bool := 0xdc00 ≤ u && u < 0xe000

/-- Characters of units of which two halves together stand for one above the first plane. A
high half at the end takes in what is left over. -/
def ofUnits16 (left : Bool) : List Nat → List Char
  | [] => if left then [replacement] else []
  | [u] =>
    if isHighHalf u || isLowHalf u then
      replacement :: if left && isLowHalf u then [replacement] else []
    else Char.ofNat u :: if left then [replacement] else []
  | u :: v :: us =>
    if isHighHalf u && isLowHalf v then
      Char.ofNat (0x10000 + (u - 0xd800) * 0x400 + (v - 0xdc00)) :: ofUnits16 left us
    else if isHighHalf u || isLowHalf u then replacement :: ofUnits16 left (v :: us)
    else Char.ofNat u :: ofUnits16 left (v :: us)

def ofUnit32 (u : Nat) : Char := if h : u.isValidChar then Char.ofNatAux u h else replacement

def decode16 (o : ByteOrder) (bs : List UInt8) : List Char :=
  let (us, left) := o.units16 bs
  ofUnits16 left us

def decode32 (o : ByteOrder) (bs : List UInt8) : List Char :=
  let (us, left) := o.units32 bs
  us.map ofUnit32 ++ if left then [replacement] else []

end Coselect.Text
