import Coselect.Json.Basic
import Coselect.Number.Digits
import Coselect.Text.Basic

/-! Reading JSON text. Besides the standard grammar the names NaN and Infinity are
numbers. A whole number may have at most 4300 digits. A fault in the text is reported with
the number of characters from there to the end. -/

namespace Coselect.Json

inductive ReadError
  | malformed (left : Nat)
  | tooManyDigits (count : Nat)
  deriving DecidableEq, Repr

/-- A value read and the text after it. -/
abbrev Front (α : Type) := α × List Char

def isSpace (c : Char) : Bool := c == ' ' || c == '\t' || c == '\n' || c == '\r'

def skipSpace (cs : List Char) : List Char := cs.dropWhile isSpace

/-- The number of a mantissa and a power of ten, with exponents far out of range cut off. -/
def floatOf (mantissa : List Char) (exponent : Int) : Float :=
  let m := Number.ofDigits 10 mantissa
  let size : Int := (Number.digits 10 m).length + exponent
  if m = 0 ∨ size < -400 then 0.0
  else if 400 < size then 1.0 / 0.0
  else if exponent < 0 then Float.ofScientific m true exponent.natAbs
  else Float.ofScientific m false exponent.natAbs

def maxDigits : Nat := 4300

def fraction : List Char → List Char × List Char
  | '.' :: cs =>
    let ds := cs.takeWhile Char.isDigit
    if ds.isEmpty then ([], '.' :: cs) else (ds, cs.dropWhile Char.isDigit)
  | cs => ([], cs)

def exponent : List Char → Option Int × List Char
  | e :: cs =>
    if e == 'e' || e == 'E' then
      let (negative, rest) := match cs with
        | '-' :: r => (true, r)
        | '+' :: r => (false, r)
        | r => (false, r)
      let ds := rest.takeWhile Char.isDigit
      if ds.isEmpty then (none, e :: cs)
      else
        let n : Int := Number.ofDigits 10 ds
        (some (if negative then -n else n), rest.dropWhile Char.isDigit)
    else (none, e :: cs)
  | [] => (none, [])

/-- The digits of a whole number; nothing follows a leading zero. -/
def wholeDigits : List Char → List Char
  | '0' :: _ => ['0']
  | cs => cs.takeWhile Char.isDigit

/-- A number without its sign: no leading zeros; a point or an exponent makes it a
floating-point number. -/
def number (negative : Bool) (cs : List Char) : Except ReadError (Front Json) :=
  let ds := wholeDigits cs
  let rest := cs.drop ds.length
  if ds.isEmpty then .error (.malformed (if negative then cs.length + 1 else cs.length))
  else
    let (places, rest) := fraction rest
    let (power, rest) := exponent rest
    if places.isEmpty ∧ power = none then
      if maxDigits < ds.length then .error (.tooManyDigits ds.length)
      else
        let n : Int := Number.ofDigits 10 ds
        .ok (.int (if negative then -n else n), rest)
    else
      let x := floatOf (ds ++ places) (power.getD 0 - places.length)
      .ok (.float (if negative then -x else x), rest)

def hex4 (cs : List Char) : Option Nat :=
  let ds := cs.take 4
  if ds.length = 4 ∧ ds.all fun c => (Number.hexValue? c).isSome then some (Number.ofDigits 16 ds)
  else none

def isHighSurrogate (n : Nat) : Bool := 0xd800 ≤ n && n ≤ 0xdbff
def isLowSurrogate (n : Nat) : Bool := 0xdc00 ≤ n && n ≤ 0xdfff

def scalar (n : Nat) : Char :=
  if isHighSurrogate n || isLowSurrogate n then Char.ofNat 0xfffd else Char.ofNat n

/-- The character of a `u` escape after its letter, and how many characters it takes;
two escapes that form a surrogate pair are one character. -/
def unicodeEscape (cs : List Char) : Option (Char × Nat) :=
  match hex4 cs with
  | none => none
  | some n =>
    match isHighSurrogate n, cs.drop 4 with
    | true, '\\' :: 'u' :: r =>
      match hex4 r with
      | some m =>
        if isLowSurrogate m then
          some (Char.ofNat (0x10000 + (n - 0xd800) * 1024 + (m - 0xdc00)), 10)
        else some (scalar n, 4)
      | none => some (scalar n, 4)
    | _, _ => some (scalar n, 4)

def simpleEscape? : Char → Option Char
  | '"' => some '"'
  | '\\' => some '\\'
  | '/' => some '/'
  | 'b' => some (Char.ofNat 8)
  | 'f' => some (Char.ofNat 12)
  | 'n' => some '\n'
  | 'r' => some '\r'
  | 't' => some '\t'
  | _ => none

/-- A string after its opening quote, which has `left` characters from the quote to the end
of the text. The counter skips characters of an escape already read. -/
def stringFrom (left : Nat) : Nat → List Char → Except ReadError (Front (List Char))
  | _, [] => .error (.malformed left)
  | k + 1, _ :: cs => stringFrom left k cs
  | 0, '"' :: cs => .ok ([], cs)
  | 0, ['\\'] => .error (.malformed left)
  | 0, '\\' :: 'u' :: cs =>
    match unicodeEscape cs with
    | none => .error (.malformed (cs.length + 1))
    | some (c, n) => do
      let (s, rest) ← stringFrom left n cs
      .ok (c :: s, rest)
  | 0, '\\' :: e :: cs =>
    match simpleEscape? e with
    | none => .error (.malformed (cs.length + 2))
    | some c => do
      let (s, rest) ← stringFrom left 0 cs
      .ok (c :: s, rest)
  | 0, c :: cs =>
    if c.toNat < 32 then .error (.malformed (cs.length + 1))
    else do
      let (s, rest) ← stringFrom left 0 cs
      .ok (c :: s, rest)

def words : List (String × Json) :=
  [("null", .null), ("true", .bool true), ("false", .bool false), ("NaN", .float (0.0 / 0.0)),
   ("Infinity", .float (1.0 / 0.0)), ("-Infinity", .float (-1.0 / 0.0))]

def word? (cs : List Char) : Option (Json × List Char) :=
  words.findSome? fun (w, v) => (Text.afterStart w.toList cs).map fun rest => (v, rest)

mutual

/-- A value at the start of a text; `fuel` bounds the nesting and the number of items. -/
def value : Nat → List Char → Except ReadError (Front Json)
  | 0, cs => .error (.malformed cs.length)
  | fuel + 1, cs =>
    match cs with
    | '"' :: r => do
      let (s, rest) ← stringFrom (r.length + 1) 0 r
      .ok (.str (String.ofList s), rest)
    | '[' :: r =>
      match skipSpace r with
      | ']' :: rest => .ok (.arr [], rest)
      | r => do
        let (xs, rest) ← items fuel r
        .ok (.arr xs, rest)
    | '\x7b' :: r =>
      match skipSpace r with
      | '\x7d' :: rest => .ok (.obj [], rest)
      | r => do
        let (fs, rest) ← members fuel r
        .ok (ofFields fs, rest)
    | cs =>
      match word? cs, cs with
      | some found, _ => .ok found
      | none, '-' :: r => number true r
      | none, r => number false r

/-- The items of an array that has some, up to its closing bracket. -/
def items : Nat → List Char → Except ReadError (Front (List Json))
  | 0, cs => .error (.malformed cs.length)
  | fuel + 1, cs => do
    let (v, rest) ← value fuel cs
    match skipSpace rest with
    | ']' :: rest => .ok ([v], rest)
    | ',' :: rest => do
      let (vs, rest) ← items fuel (skipSpace rest)
      .ok (v :: vs, rest)
    | rest => .error (.malformed rest.length)

/-- The members of an object that has some, up to its closing brace. -/
def members : Nat → List Char → Except ReadError (Front (List (String × Json)))
  | 0, cs => .error (.malformed cs.length)
  | fuel + 1, cs =>
    match cs with
    | '"' :: r => do
      let (k, rest) ← stringFrom (r.length + 1) 0 r
      match skipSpace rest with
      | ':' :: rest => do
        let (v, rest) ← value fuel (skipSpace rest)
        match skipSpace rest with
        | '\x7d' :: rest => .ok ([(String.ofList k, v)], rest)
        | ',' :: rest => do
          let (fs, rest) ← members fuel (skipSpace rest)
          .ok ((String.ofList k, v) :: fs, rest)
        | rest => .error (.malformed rest.length)
      | rest => .error (.malformed rest.length)
    | cs => .error (.malformed cs.length)

end

def readChars (cs : List Char) : Except ReadError Json := do
  let (v, rest) ← value (2 * cs.length + 2) (skipSpace cs)
  let rest := skipSpace rest
  if rest.isEmpty then .ok v else .error (.malformed rest.length)

def read (text : String) : Except ReadError Json := readChars text.toList

end Coselect.Json
