import Coselect.Number.Digits

/-! Decimal texts of binary floating-point numbers: the fewest digits that read back as
the same number, and a fixed number of places. Both work on the exact value
`m * 2 ^ q` of the number in natural-number arithmetic. As a rational that value can be
compared with others, and rounded back to the nearest number. -/

namespace Coselect.Number

/-- A finite number other than zero as `m * 2 ^ q`, sign apart. -/
structure Binary where
  m : Nat
  q : Int

def Binary.ofBits (bits : Nat) : Binary :=
  let fraction := bits % (1 <<< 52)
  let exponent := bits / (1 <<< 52) % (1 <<< 11)
  if exponent = 0 then ⟨fraction, -1074⟩ else ⟨(1 <<< 52) + fraction, Int.ofNat exponent - 1075⟩

/-- A quotient of natural numbers; the denominator is not zero. -/
structure Ratio where
  num : Nat
  den : Nat

def Ratio.le (a b : Ratio) : Bool := a.num * b.den ≤ b.num * a.den
def Ratio.lt (a b : Ratio) : Bool := a.num * b.den < b.num * a.den

/-- The number `n * base ^ e`. -/
def Ratio.scaled (n base : Nat) (e : Int) : Ratio :=
  if 0 ≤ e then ⟨n * base.pow e.toNat, 1⟩ else ⟨n, base.pow (-e).toNat⟩

def Binary.value (b : Binary) : Ratio := .scaled (4 * b.m) 2 (b.q - 2)

/-- Upper end of the numbers that round to `b`. -/
def Binary.upper (b : Binary) : Ratio := .scaled (4 * b.m + 2) 2 (b.q - 2)

/-- Lower end of the numbers that round to `b`, nearer at a power of two. -/
def Binary.lower (b : Binary) : Ratio :=
  .scaled (4 * b.m - (if b.m = 1 <<< 52 ∧ -1074 < b.q then 1 else 2)) 2 (b.q - 2)

/-- Whether a number rounds to `b`; the ends do when `m` is even. -/
def Binary.rounds (b : Binary) (r : Ratio) : Bool :=
  if b.m % 2 = 0 then b.lower.le r && r.le b.upper else b.lower.lt r && r.lt b.upper

/-- The least power of ten above the value, searched upwards from a bound below it. -/
def Binary.magnitude (b : Binary) : Int :=
  let start : Int := ((Nat.log2 b.m : Int) + b.q) * 30103 / 100000 - 1
  go 6 start
where
  go : Nat → Int → Int
    | 0, e => e
    | fuel + 1, e => if b.value.lt (.scaled 1 10 e) then e else go fuel (e + 1)

/-- A decimal `digits * 10 ^ exponent`. -/
structure Decimal where
  digits : Nat
  exponent : Int

/-- The decimal with `n` digits nearest to `b` that rounds to it; a tie goes to the even
digit. -/
def Binary.within? (b : Binary) (n : Nat) : Option Decimal :=
  let e := b.magnitude - n
  let unit : Ratio := .scaled 1 10 e
  let v := b.value
  let below := v.num * unit.den / (v.den * unit.num)
  let low : Ratio := ⟨below * unit.num, unit.den⟩
  let high : Ratio := ⟨(below + 1) * unit.num, unit.den⟩
  match b.rounds low, b.rounds high with
  | false, false => none
  | true, false => some ⟨below, e⟩
  | false, true => some ⟨below + 1, e⟩
  | true, true =>
    let twice : Ratio := ⟨2 * v.num, v.den⟩
    let sum : Ratio := ⟨(2 * below + 1) * unit.num, unit.den⟩
    if twice.lt sum then some ⟨below, e⟩
    else if sum.lt twice then some ⟨below + 1, e⟩
    else some ⟨if below % 2 = 0 then below else below + 1, e⟩

def Binary.shortest (b : Binary) : Decimal :=
  ((List.range 17).findSome? fun n => b.within? (n + 1)).getD ⟨0, 0⟩

/-- Digits without trailing zeros, and the power of ten just above the number. -/
def Decimal.significant (d : Decimal) : List Char × Int :=
  let ds := Number.digits 10 d.digits
  let kept := (ds.reverse.dropWhile (· == '0')).reverse
  (if kept.isEmpty then ['0'] else kept, d.exponent + ds.length)

/-- How a number is written: positionally from `10 ^ -4` to below `10 ^ 16` with at least
one decimal place, else with one digit before the point and an exponent of two digits
or more. -/
def writeDecimal (ds : List Char) (point : Int) : List Char :=
  if -4 < point ∧ point ≤ 16 then
    if point ≤ 0 then ['0', '.'] ++ List.replicate (-point).toNat '0' ++ ds
    else
      let n := point.toNat
      if ds.length ≤ n then ds ++ List.replicate (n - ds.length) '0' ++ ['.', '0']
      else ds.take n ++ ['.'] ++ ds.drop n
  else
    let e := point - 1
    let head := match ds with
      | d :: r@(_ :: _) => d :: '.' :: r
      | ds => ds
    head ++ ['e', if e < 0 then '-' else '+'] ++ padStart 2 (digits 10 e.natAbs)

/-- The sign bit and the rest of a number's bits. -/
def splitSign (x : Float) : Bool × Nat :=
  let bits := x.toBits.toNat
  (1 <<< 63 ≤ bits, bits % (1 <<< 63))

def nonFinite? (x : Float) : Option String :=
  let (negative, bits) := splitSign x
  if bits < 2047 <<< 52 then none
  else if bits = 2047 <<< 52 then some (if negative then "-inf" else "inf")
  else some "nan"

/-- The shortest text that reads back as the number. -/
def shortest (x : Float) : String :=
  match nonFinite? x with
  | some s => s
  | none =>
    let (negative, bits) := splitSign x
    let cs := if bits = 0 then ['0', '.', '0']
      else
        let (ds, point) := (Binary.ofBits bits).shortest.significant
        writeDecimal ds point
    String.ofList (if negative then '-' :: cs else cs)

/-- A quotient rounded to a whole number, a half to the even one. -/
def Ratio.round (r : Ratio) : Nat :=
  let n := r.num / r.den
  let twice := 2 * (r.num % r.den)
  if r.den < twice ∨ (r.den = twice ∧ n % 2 = 1) then n + 1 else n

/-- The number to a fixed count of decimal places, at least one. -/
def fixed (places : Nat) (x : Float) : String :=
  match nonFinite? x with
  | some s => s
  | none =>
    let (negative, bits) := splitSign x
    let v := (Binary.ofBits bits).value
    let unit := Nat.pow 10 places
    let n := Ratio.round ⟨v.num * unit, v.den⟩
    let cs := digits 10 (n / unit) ++ ['.'] ++ padStart places (digits 10 (n % unit))
    String.ofList (if negative then '-' :: cs else cs)

/-! ### Exact values -/

/-- The rational a finite number stands for; zero for the others. -/
def exact (x : Float) : Rat :=
  let (negative, bits) := splitSign x
  if 2047 <<< 52 ≤ bits then 0
  else
    let r := (Binary.ofBits bits).value
    let v : Rat := (r.num : Rat) / (r.den : Rat)
    if negative then -v else v

/-- Whether a number is finite and has no fraction. -/
def isWhole (x : Float) : Bool := (nonFinite? x).isNone && (exact x).den == 1

/-- A quotient rounded to the nearest natural number, a half to the even one. -/
def roundHalfEven (n d : Nat) : Nat :=
  let low := n / d
  let left := 2 * (n % d)
  if left < d ∨ (left = d ∧ low % 2 = 0) then low else low + 1

/-- The value of the floating-point number nearest to a rational, of unbounded size. -/
def nearest (q : Rat) : Rat :=
  let n := q.num.natAbs
  if n = 0 then 0
  else
    let top : Int := (Nat.log2 n : Int) - (Nat.log2 q.den : Int)
    let fits := if 0 ≤ top then q.den <<< top.toNat ≤ n else q.den ≤ n <<< (-top).toNat
    let e : Int := max (-1074) (if fits then top - 52 else top - 53)
    let m :=
      if 0 ≤ e then roundHalfEven n (q.den <<< e.toNat)
      else roundHalfEven (n <<< (-e).toNat) q.den
    let size : Rat := if 0 ≤ e then (m <<< e.toNat : Nat) else mkRat m (1 <<< (-e).toNat)
    if q < 0 then -size else size

end Coselect.Number
