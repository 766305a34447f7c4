import Coselect.Number.Digits
import Coselect.Text.CharName
import Coselect.Text.Front
import Coselect.Text.Wide

/-! Bytes that stand for the first 256 characters, and escapes with a backslash for others. -/

namespace Coselect.Text.Escaped

def latin (b : UInt8) : Char := Char.ofNat b.toNat

/-- Exactly `width` hexadecimal digits behind an escape letter, both behind a backslash. -/
def hexFront (width : Nat) (bs : List UInt8) : Front :=
  let ds := ((bs.take width).map latin).takeWhile fun c => (Number.hexValue? c).isSome
  if ds.length = width then ⟨[ofUnit32 (Number.ofDigits 16 ds)], width + 1⟩
  else ⟨[replacement], ds.length + 1⟩

def octalFront (first : UInt8) (bs : List UInt8) : Front :=
  let ds := latin first :: ((bs.take 2).map latin).takeWhile fun c => '0' ≤ c && c ≤ '7'
  ⟨[ofUnit32 (Number.ofDigits 8 ds)], ds.length⟩

/-- A character by its name, of which `bs` is what follows the escape letter. -/
def namedFront (bs : List UInt8) : Front :=
  match bs with
  | 0x7b :: rest =>
    let name := rest.takeWhile (· != 0x7d)
    if name.length = rest.length then ⟨[replacement], rest.length + 2⟩
    else if name.isEmpty then ⟨[replacement], 2⟩
    else match codeNamed? (name.map latin) with
      | some n => ⟨[ofUnit32 n], name.length + 3⟩
      | none => ⟨[replacement], name.length + 3⟩
  | _ => ⟨[replacement], 1⟩

def letterCode? (b : UInt8) : Option Char :=
  [(0x5c, '\\'), (0x27, '\''), (0x22, '"'), (0x62, '\x08'), (0x66, '\x0c'), (0x74, '\t'),
    (0x6e, '\n'), (0x72, '\r'), (0x76, '\x0b'), (0x61, '\x07')].lookup b

/-- All escapes; a line end behind a backslash vanishes with it. -/
def front (a : UInt8) (bs : List UInt8) : Front :=
  match a, bs with
  | 0x5c, [] => .stray
  | 0x5c, b :: rest =>
    match letterCode? b with
    | some c => ⟨[c], 1⟩
    | none =>
      if b = 0x0a then ⟨[], 1⟩
      else if 0x30 ≤ b && b ≤ 0x37 then octalFront b rest
      else if b = 0x78 then hexFront 2 rest
      else if b = 0x75 then hexFront 4 rest
      else if b = 0x55 then hexFront 8 rest
      else if b = 0x4e then namedFront rest
      else ⟨['\\', latin b], 1⟩
  | a, _ => .single (latin a)

/-- Only escapes that give the number of a character. -/
def numericFront (a : UInt8) (bs : List UInt8) : Front :=
  match a, bs with
  | 0x5c, b :: rest =>
    if b = 0x75 then hexFront 4 rest
    else if b = 0x55 then hexFront 8 rest
    else ⟨['\\', latin b], 1⟩
  | a, _ => .single (latin a)

end Coselect.Text.Escaped
