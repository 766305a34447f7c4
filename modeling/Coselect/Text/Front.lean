import Coselect.Text.Decoding

/-! Bytes read as text from front to back, where a character may take several bytes and where
what a byte means may depend on those before it. -/

namespace Coselect.Text

/-- The characters of a first byte and some more. -/
structure Front where
  chars : List Char
  more : Nat := 0

namespace Front

def single (c : Char) : Front := { chars := [c] }

/-- A first byte without a meaning. -/
def stray : Front := single replacement

/-- A character for which the bytes are too few. -/
def broken (bs : List UInt8) : Front := ⟨[replacement], bs.length⟩

/-- A character of one byte or of two, whose code is that of a number of two bytes. -/
def ofPairs (single? : UInt8 → Option Char) (pair? : Nat → Option (List Char)) (a : UInt8)
    (bs : List UInt8) : Front :=
  match single? a, bs with
  | some c, _ => single c
  | none, [] => stray
  | none, b :: _ =>
    match pair? (256 * a.toNat + b.toNat) with
    | some cs => ⟨cs, 1⟩
    | none => stray

def ascii? (a : UInt8) : Option Char := if a < 0x80 then some (Char.ofNat a.toNat) else none

end Front

/-- What the state says of the bytes that follow changes with them. -/
def decodeFronts {σ : Type} (front : σ → UInt8 → List UInt8 → Front × σ) :
    σ → List UInt8 → List Char
  | _, [] => []
  | s, b :: bs =>
    let (f, s) := front s b bs
    f.chars ++ decodeFronts front s (bs.drop f.more)
termination_by _ bs => bs.length
decreasing_by simp only [List.length_drop, List.length_cons]; omega

def decodePlain (front : UInt8 → List UInt8 → Front) (bs : List UInt8) : List Char :=
  decodeFronts (fun _ b bs => (front b bs, ())) () bs

end Coselect.Text
