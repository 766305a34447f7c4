import Coselect.Fault
import Coselect.Json.Reader
import Coselect.Number.Shortest
import Coselect.Text.Lowercase

/-! Lenient reading of input values. Whole numbers are read from numbers without a fraction
and from decimal texts, flags from 0, 1 and a few words, and texts only from texts. A
value that cannot be read is refused under the name of the rule it breaks. -/

namespace Coselect.Settings

/-- A value, or everything that speaks against the input. -/
def Checked (α : Type) : Type := Except (List Refusal) α

namespace Checked

def ok (a : α) : Checked α := Except.ok a

def refuse (rule : String) : Checked α := Except.error [⟨rule, []⟩]

def map (f : α → β) : Checked α → Checked β
  | .ok a => .ok (f a)
  | .error rs => .error rs

/-- Applies a checked function to a checked value; what speaks against either is kept. -/
def seq : Checked (α → β) → Checked α → Checked β
  | .ok f, .ok a => .ok (f a)
  | .ok _, .error rs => .error rs
  | .error rs, .ok _ => .error rs
  | .error rs, .error rs' => .error (rs ++ rs')

instance : Applicative Checked where
  pure := ok
  seq f a := seq f (a ())

def under (l : Location) : Checked α → Checked α
  | .ok a => .ok a
  | .error rs => .error (rs.map (Refusal.under l))

/-- All checked values of a list, with the index of each refusal. -/
def all (i : Nat) : List (Checked α) → Checked (List α)
  | [] => ok []
  | c :: cs => seq (map List.cons (c.under (.index i))) (all (i + 1) cs)

def toFailure : Checked α → Except Failure α
  | .ok a => .ok a
  | .error rs => .error (.refused rs)

end Checked

/-- Blanks that may stand around a number; the separators of data fields are none. -/
def isSpace (c : Char) : Bool := Text.isBlank c && !(0x1c ≤ c.toNat && c.toNat ≤ 0x1f)

/-- The most digits a whole number may have. -/
def maxDigits : Nat := 4300

/-- How a text reads as a whole number. -/
inductive Numeral
  | number (i : Int)
  | tooLong
  | malformed
  deriving DecidableEq, Repr

/-- Decimal digits without zeros in front, a minus before them allowed. Too many digits are too
long whatever follows them. -/
def numeral (cs : List Char) : Numeral :=
  let (negative, cs) := match cs with
    | '-' :: cs => (true, cs)
    | cs => (false, cs)
  let ds := cs.takeWhile Char.isDigit
  if ds.head? = some '0' then if cs = ['0'] then .number 0 else .malformed
  else if maxDigits < ds.length then .tooLong
  else if ds.isEmpty ∨ ds.length < cs.length then .malformed
  else
    let n : Int := Number.ofDigits 10 ds
    .number (if negative then -n else n)

/-- Leading zeros, and underscores behind the first of them, dropped. What they lead to is a
digit, a minus or a point, before which the last of them stays; at the end the last one stays
as well. -/
def dropZeros : List Char → Option (List Char)
  | '0' :: cs => afterZero '0' cs
  | c :: cs => if c.isDigit ∨ c = '-' then some (c :: cs) else none
  | [] => none
where
  afterZero (last : Char) : List Char → Option (List Char)
    | [] => some [last]
    | '0' :: cs => afterZero '0' cs
    | '_' :: cs => afterZero '_' cs
    | '.' :: cs => some (last :: '.' :: cs)
    | c :: cs => if c.isDigit ∨ c = '-' then some (c :: cs) else none

/-- A point dropped with the zeros behind it, of which there is at least one. -/
def dropZeroPlaces (cs : List Char) : Option (List Char) :=
  match cs.dropWhile (· != '.') with
  | [] => some cs
  | _ :: places =>
    if places.isEmpty || !places.all (· == '0') then none else some (cs.takeWhile (· != '.'))

def hasDouble (c : Char) : List Char → Bool
  | a :: b :: cs => (a == c && b == c) || hasDouble c (b :: cs)
  | _ => false

/-- Single underscores between other characters dropped. -/
def dropUnderscores (cs : List Char) : Option (List Char) :=
  if cs.head? = some '_' ∨ cs.getLast? = some '_' ∨ hasDouble '_' cs then none
  else some (cs.filter (· != '_'))

/-- The plain decimal notation that a text stands for: without blanks around it, a plus, zeros
in front, zero places behind the point and single underscores. -/
def plainNotation? (cs : List Char) : Option (List Char) :=
  let cs := Text.trimBy isSpace cs
  let unsigned := match cs with
    | '+' :: '-' :: _ => none
    | '+' :: cs => some cs
    | cs => some cs
  (unsigned.bind dropZeros).bind fun cs =>
    (dropZeroPlaces cs).map fun cs => (dropUnderscores cs).getD cs

/-- A whole number in decimal notation, as it is or made plain. -/
def numeralOfText (s : String) : Numeral :=
  match numeral s.toList with
  | .malformed => ((plainNotation? s.toList).map numeral).getD .malformed
  | n => n

/-- The least number too large for 64 bits with a sign. -/
def machineLimit : Rat := (1 <<< 63 : Nat)

/-- Whether a number fits into 64 bits with its sign. -/
def isMachineSized (q : Rat) : Bool := -machineLimit ≤ q && q < machineLimit

/-- Whether a floating-point number is whole and fits into 64 bits, the lower bound left out. -/
def isMachineWhole (x : Float) : Bool :=
  Number.isWhole x && isMachineSized (Number.exact x) && Number.exact x != -machineLimit

def readInt : Json → Checked Int
  | .int i => .ok i
  | .bool b => .ok (if b then 1 else 0)
  | .float x =>
    if (Number.nonFinite? x).isSome then .refuse "finite_number"
    else if !Number.isWhole x then .refuse "int_from_float"
    else if isMachineWhole x then .ok (Number.exact x).num
    else .refuse "int_parsing_size"
  | .str s =>
    match numeralOfText s with
    | .number i => .ok i
    | .tooLong => .refuse "int_parsing_size"
    | .malformed => .refuse "int_parsing"
  | _ => .refuse "int_type"

def flagWords : List (String × Bool) :=
  [("0", false), ("off", false), ("f", false), ("false", false), ("n", false), ("no", false),
   ("1", true), ("on", true), ("t", true), ("true", true), ("y", true), ("yes", true)]

def flagOfRat? (q : Rat) : Option Bool :=
  if q = 0 then some false else if q = 1 then some true else none

def flagOfJson? : Json → Option Bool
  | .bool b => some b
  | .int i => flagOfRat? i
  | .float x => flagOfRat? (Number.exact x)
  | .str s => flagWords.lookup (String.ofList (s.toList.map Char.toLower))
  | _ => none

/-- A flag; a number with a fraction or without a machine's size cannot be meant as one. -/
def readFlag (v : Json) : Checked Bool :=
  let canBe : Bool := match v with
    | .bool _ | .str _ => true
    | .int i => isMachineSized i
    | .float x => isMachineWhole x
    | _ => false
  if !canBe then .refuse "bool_type"
  else match flagOfJson? v with
    | some b => .ok b
    | none => .refuse "bool_parsing"

def readText : Json → Checked String
  | .str s => .ok s
  | _ => .refuse "string_type"

def readTexts : Json → Checked (List String)
  | .arr xs => .all 0 (xs.map readText)
  | _ => .refuse "list_type"

/-- The digits of a decimal text in front of its exponent, point left out, and the power of
ten they are to be taken by. -/
def mantissa? (cs : List Char) : Option (List Char × Int) :=
  let whole := cs.takeWhile Char.isDigit
  match cs.drop whole.length with
  | [] => if whole.isEmpty then none else some (whole, 0)
  | '.' :: places =>
    if places.all Char.isDigit && !(whole.isEmpty && places.isEmpty) then
      some (whole ++ places, -(places.length : Int))
    else none
  | _ => none

def splitSign : List Char → Bool × List Char
  | '-' :: cs => (true, cs)
  | '+' :: cs => (false, cs)
  | cs => (false, cs)

def exponentOfText? (cs : List Char) : Option Int :=
  let (negative, ds) := splitSign cs
  if ds.isEmpty || !ds.all Char.isDigit then none
  else
    let n : Int := Number.ofDigits 10 ds
    some (if negative then -n else n)

def isExponentMark (c : Char) : Bool := c == 'e' || c == 'E'

/-- A floating-point number in decimal notation, or one of its names. -/
def floatOfChars? (cs : List Char) : Option Float :=
  let (negative, cs) := splitSign cs
  let size : Option Float :=
    match String.ofList (cs.map Char.toLower) with
    | "inf" | "infinity" => some (1.0 / 0.0)
    | "nan" => some (0.0 / 0.0)
    | _ =>
      let head := cs.takeWhile (!isExponentMark ·)
      match mantissa? head, cs.drop head.length with
      | some (ds, power), [] => some (Json.floatOf ds power)
      | some (ds, power), _ :: tail =>
        (exponentOfText? tail).map fun e => Json.floatOf ds (power + e)
      | none, _ => none
  size.map fun x => if negative then -x else x

/-- A floating-point number with blanks around it, or with single underscores in it. -/
def floatOfText? (s : String) : Option Float :=
  (floatOfChars? (Text.trimBy isSpace s.toList)).or
    ((dropUnderscores s.toList).bind floatOfChars?)

def readFloat : Json → Checked Float
  | .float x => .ok x
  | .int i =>
    let x := Json.floatOf (Number.digits 10 i.natAbs) 0
    if (Number.nonFinite? x).isSome then .refuse "float_type" else .ok (if i < 0 then -x else x)
  | .bool b => .ok (if b then 1.0 else 0.0)
  | .str s =>
    match floatOfText? s with
    | some x => .ok x
    | none => .refuse "float_parsing"
  | _ => .refuse "float_type"

/-- One of some texts. -/
def readChoice (choices : List String) : Json → Checked String
  | .str s => if choices.contains s then .ok s else .refuse "literal_error"
  | _ => .refuse "literal_error"

/-- Checks a value that was read. -/
def Checked.also (c : Checked α) (test : α → Checked α) : Checked α :=
  match c with
  | .ok a => test a
  | .error rs => .error rs

def atLeast (low : Int) (i : Int) : Checked Int :=
  if i < low then .refuse "greater_than_equal" else .ok i

def between (low high : Int) (i : Int) : Checked Int :=
  if high < i then .refuse "less_than_equal" else atLeast low i

def positive (x : Float) : Checked Float := if 0.0 < x then .ok x else .refuse "greater_than"

def positiveUpTo (high : Float) (x : Float) : Checked Float :=
  if x <= high then positive x else .refuse "less_than_equal"

/-- Input values by the names of their fields. -/
abbrev Fields := List (String × Json)

/-- The known name that a name stands for in any case; another stays as it is. -/
def knownAs (names : List String) (name : String) : String :=
  if names.contains (Text.lower name) then Text.lower name else name

/-- Fields under the names they stand for; of one given twice the last counts. -/
def named (names : List String) (fs : Fields) : Fields :=
  fs.foldl (fun acc (name, v) => Json.setField (knownAs names name) v acc) []

/-- Fields under the names they stand for; of one given twice the first counts. -/
def firstNamed (names : List String) (fs : Fields) : Fields := (named names fs.reverse).reverse

/-- Reads a field, or takes the default where it is missing. -/
def reading (fs : Fields) (name : String) (read : Json → Checked α) (default : α) : Checked α :=
  match fs.lookup name with
  | none => .ok default
  | some v => (read v).under (.field name)

/-- Refuses every field that has none of some names. -/
def only (names : List String) (fs : Fields) (c : Checked α) : Checked α :=
  let extra := (fs.filter fun f => !names.contains f.1).map fun f =>
    (⟨"extra_forbidden", [.field f.1]⟩ : Refusal)
  match c, extra with
  | c, [] => c
  | .ok _, rs => .error rs
  | .error rs', rs => .error (rs' ++ rs)

end Coselect.Settings
