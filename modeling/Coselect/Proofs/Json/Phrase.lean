import Coselect.Imports.Comment
import Coselect.Json.Relaxed

/-! Texts of JSON as trees. A value is a scalar, or a group of entries between brackets, each of
which stands behind its name in an object; between its tokens stand blanks and comments, and behind
the last entry of a group there may be a comma. A layout says what becomes of all that stands
between the tokens, so one tree has a text with it, one with blanks in its place and one without
it; what the tree means does not depend on the layout. -/

namespace Coselect.Json

/-! ### Scalars -/

/-- What stands between the quotes of a string: characters for themselves, escapes by a letter, and
escapes by four digits of a number. -/
inductive Atom
  | plain (c : Char) (h : 32 ≤ c.toNat ∧ c ≠ '"' ∧ c ≠ '\\')
  | letter (e c : Char) (h : simpleEscape? e = some c)
  | code (ds : List Char) (n : Nat) (h : ds.length = 4 ∧ hex4 ds = some n)

def Atom.text : Atom → List Char
  | plain c _ => [c]
  | letter e _ _ => ['\\', e]
  | code ds _ _ => '\\' :: 'u' :: ds

/-- A string as it is written. -/
abbrev Quoted := List Atom

namespace Quoted

def inner (q : Quoted) : List Char := q.flatMap Atom.text

def text (q : Quoted) : List Char := '"' :: (q.inner ++ ['"'])

/-- The characters of a string; two codes that form a surrogate pair are one character. -/
def chars : Quoted → List Char
  | [] => []
  | .plain c _ :: as => c :: chars as
  | .letter _ c _ :: as => c :: chars as
  | .code _ n _ :: .code ds m h :: as =>
    if isHighSurrogate n && isLowSurrogate m then
      Char.ofNat (0x10000 + (n - 0xd800) * 1024 + (m - 0xdc00)) :: chars as
    else scalar n :: chars (.code ds m h :: as)
  | .code _ n _ :: as => scalar n :: chars as

/-- No comma within the string stands in front of a closing bracket or brace, blanks aside. -/
def Tidy (q : Quoted) : Prop :=
  ∀ before after, q.inner = before ++ ',' :: after → closesNext after = false

/-- The string without the commas that do. -/
def tidied : Quoted → Quoted
  | [] => []
  | a :: as => if a.text = [','] ∧ closesNext (inner as) = true then tidied as else a :: tidied as

end Quoted

/-- An exponent as it is written. -/
structure Power where
  letter : Char
  sign : List Char
  digits : List Char
  isLetter : letter = 'e' ∨ letter = 'E'
  isSign : sign ∈ [[], ['+'], ['-']]
  ne_nil : digits ≠ []
  areDigits : ∀ c ∈ digits, c.isDigit = true

/-- A number as it is written, without leading zeros. -/
structure Numeral where
  negative : Bool
  whole : List Char
  places : List Char
  power : Option Power
  ne_nil : whole ≠ []
  areDigits : ∀ c ∈ whole, c.isDigit = true
  leading : whole.head? = some '0' → whole = ['0']
  arePlaces : ∀ c ∈ places, c.isDigit = true

def Power.text (p : Power) : List Char := p.letter :: (p.sign ++ p.digits)

def Power.exponent (p : Power) : Int :=
  if p.sign = ['-'] then -Number.ofDigits 10 p.digits else Number.ofDigits 10 p.digits

namespace Numeral

def body (n : Numeral) : List Char :=
  n.whole ++ ((if n.places = [] then [] else '.' :: n.places) ++ (n.power.map Power.text).getD [])

def text (n : Numeral) : List Char := if n.negative then '-' :: n.body else n.body

/-- The number that is written, unless it is a whole number of too many digits. -/
def value (n : Numeral) : Except ReadError Json :=
  if n.places = [] ∧ n.power.isNone then
    if maxDigits < n.whole.length then .error (.tooManyDigits n.whole.length)
    else
      let i : Int := Number.ofDigits 10 n.whole
      .ok (.int (if n.negative then -i else i))
  else
    let x := floatOf (n.whole ++ n.places) ((n.power.map Power.exponent).getD 0 - n.places.length)
    .ok (.float (if n.negative then -x else x))

end Numeral

inductive Scalar
  | word (w : String) (v : Json) (h : (w, v) ∈ words)
  | numeral (n : Numeral)
  | quoted (q : Quoted)

namespace Scalar

def text : Scalar → List Char
  | word w _ _ => w.toList
  | numeral n => n.text
  | quoted q => q.text

def value : Scalar → Except ReadError Json
  | word _ v _ => .ok v
  | numeral n => n.value
  | quoted q => .ok (.str (String.ofList q.chars))

def strings : Scalar → List Quoted
  | quoted q => [q]
  | _ => []

def tidied : Scalar → Scalar
  | quoted q => quoted q.tidied
  | s => s

end Scalar

/-! ### Between the tokens -/

/-- What may stand between two tokens; a line comment takes the end of its line with it. -/
inductive Filler
  | space (c : Char) (h : isSpace c = true)
  | line (cs : List Char) (h : '\n' ∉ cs)
  | block (cs : List Char) (h : ¬ "*/".toList <:+: cs)

namespace Filler

def text : Filler → List Char
  | space c _ => [c]
  | line cs _ => "//".toList ++ (cs ++ ['\n'])
  | block cs _ => "/*".toList ++ (cs ++ "*/".toList)

def blanked : Filler → List Char
  | space c _ => [c]
  | line cs _ => ("//".toList ++ cs).map Imports.blankChar ++ ['\n']
  | block cs _ => ("/*".toList ++ (cs ++ "*/".toList)).map Imports.blankChar

end Filler

abbrev Gap := List Filler

/-- What becomes of a gap, and of a comma behind the last entry with the gap behind it. -/
structure Layout where
  gap : Gap → List Char
  trailing : Gap → List Char

namespace Layout

/-- Everything as it is written. -/
def written : Layout where
  gap g := g.flatMap Filler.text
  trailing g := ',' :: g.flatMap Filler.text

/-- Blanks instead of comments. -/
def blanked : Layout where
  gap g := g.flatMap Filler.blanked
  trailing g := ',' :: g.flatMap Filler.blanked

/-- Blanks instead of comments and no commas behind last entries. -/
def plain : Layout where
  gap g := g.flatMap Filler.blanked
  trailing g := g.flatMap Filler.blanked

/-- Nothing between the tokens. -/
def compact : Layout where
  gap _ := []
  trailing _ := []

end Layout

/-! ### Values and their entries -/

inductive Kind
  | array
  | object

/-- The name of an entry of an object, with what stands around the colon. -/
structure Name where
  name : Quoted
  after : Gap
  before : Gap

namespace Kind

def opener : Kind → Char
  | array => '['
  | object => '\x7b'

def closer : Kind → Char
  | array => ']'
  | object => '\x7d'

/-- What stands in front of the value of an entry. -/
def Label : Kind → Type
  | array => Unit
  | object => Name

/-- What an entry comes to. -/
def Entry : Kind → Type
  | array => Json
  | object => String × Json

def label (l : Layout) : (k : Kind) → k.Label → List Char
  | array, _ => []
  | object, n => n.name.text ++ (l.gap n.after ++ ':' :: l.gap n.before)

def strings : (k : Kind) → k.Label → List Quoted
  | array, _ => []
  | object, n => [n.name]

def tidied : (k : Kind) → k.Label → k.Label
  | array, _ => ()
  | object, n => { n with name := n.name.tidied }

def entry : (k : Kind) → k.Label → Json → k.Entry
  | array, _, v => v
  | object, n, v => (String.ofList n.name.chars, v)

def group : (k : Kind) → List k.Entry → Json
  | array, vs => arr vs
  | object, fs => ofFields fs

end Kind

/-- A value, or the entries of a group with its closing bracket. -/
inductive Part
  | value
  | entries (k : Kind)

def Part.Value : Part → Type
  | value => Json
  | entries k => List k.Entry

inductive Phrase : Part → Type
  | scalar (s : Scalar) : Phrase .value
  | empty (k : Kind) (inside : Gap) : Phrase .value
  | group (k : Kind) (before : Gap) (es : Phrase (.entries k)) : Phrase .value
  | last {k : Kind} (label : k.Label) (v : Phrase .value) (after : Gap) (trailing : Option Gap) :
    Phrase (.entries k)
  | more {k : Kind} (label : k.Label) (v : Phrase .value) (after before : Gap)
    (es : Phrase (.entries k)) : Phrase (.entries k)

namespace Phrase

def text (l : Layout) : {p : Part} → Phrase p → List Char
  | _, scalar s => s.text
  | _, empty k inside => k.opener :: (l.gap inside ++ [k.closer])
  | _, group k before es => k.opener :: (l.gap before ++ es.text l)
  | .entries k, last label v after trailing =>
    k.label l label ++
      (v.text l ++ (l.gap after ++ ((trailing.map l.trailing).getD [] ++ [k.closer])))
  | .entries k, more label v after before es =>
    k.label l label ++ (v.text l ++ (l.gap after ++ ',' :: (l.gap before ++ es.text l)))

/-- What a phrase means, unless it holds a number that cannot be read. -/
def value : {p : Part} → Phrase p → Except ReadError p.Value
  | _, scalar s => s.value
  | _, empty k _ => .ok (k.group [])
  | _, group k _ es => es.value.map k.group
  | .entries k, last label v _ _ => v.value.map fun x => [k.entry label x]
  | .entries k, more label v _ _ es => do
    let x ← v.value
    let xs ← es.value
    return k.entry label x :: xs

/-- All strings of a phrase, names included. -/
def strings : {p : Part} → Phrase p → List Quoted
  | _, scalar s => s.strings
  | _, empty _ _ => []
  | _, group _ _ es => es.strings
  | .entries k, last label v _ _ => k.strings label ++ v.strings
  | .entries k, more label v _ _ es => k.strings label ++ (v.strings ++ es.strings)

/-- The phrase with tidied strings. -/
def tidied : {p : Part} → Phrase p → Phrase p
  | _, scalar s => scalar s.tidied
  | _, empty k inside => empty k inside
  | _, group k before es => group k before es.tidied
  | .entries k, last label v after trailing => last (k.tidied label) v.tidied after trailing
  | .entries k, more label v after before es =>
    more (k.tidied label) v.tidied after before es.tidied

end Phrase

/-- A whole text; a line comment may end it. -/
structure Document where
  before : Gap
  body : Phrase .value
  after : Gap
  remark : Option {cs : List Char // '\n' ∉ cs}

/-- The comment that may end a text. -/
def Document.ending (d : Document) : List Char :=
  (d.remark.map fun cs => "//".toList ++ cs.1).getD []

def Document.text (d : Document) : List Char :=
  Layout.written.gap d.before ++ (d.body.text .written ++ Layout.written.gap d.after) ++ d.ending

end Coselect.Json
