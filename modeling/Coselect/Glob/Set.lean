import Coselect.Number.Digits
import Coselect.Text.CharClass
import Coselect.Text.CharName
import Coselect.Text.Quoted

/-! Sets of characters as a pattern text writes them between brackets: characters, ranges,
escapes and classes, all but those listed when a caret comes first. A fault is reported
with its position in the pattern text. -/

namespace Coselect.Glob

structure PatternFault where
  reason : String
  position : Nat
  deriving DecidableEq, Repr

/-- The reason with its position; in a pattern of several lines also with line and column. -/
def PatternFault.message (f : PatternFault) (pattern : List Char) : String :=
  let before := pattern.take f.position
  let column := (before.reverse.takeWhile (· != '\n')).length + 1
  f.reason ++ " at position " ++ Number.decimal f.position ++
    if pattern.contains '\n' then
      " (line " ++ Number.decimal (before.count '\n' + 1) ++ ", column " ++ Number.decimal column
        ++ ")"
    else ""

inductive CharClass
  | digit
  | space
  | word
  deriving DecidableEq, Repr

def CharClass.has : CharClass → Char → Bool
  | digit, c => Text.isDecimalDigit c
  | space, c => Text.isBlank c
  | word, c => Text.isWord c

/-- A member of a set: code points from one to another, or a class, complemented or not. -/
inductive Member
  | range (low high : Nat)
  | cls (complement : Bool) (k : CharClass)
  deriving DecidableEq, Repr

def Member.has : Member → Char → Bool
  | range low high, c => low ≤ c.toNat && c.toNat ≤ high
  | cls complement k, c => k.has c != complement

structure CharSet where
  negated : Bool
  members : List Member
  deriving DecidableEq, Repr

def CharSet.has (s : CharSet) (c : Char) : Bool := s.members.any (·.has c) != s.negated

namespace CharSet

/-- What one atom of a set means: a code point or a class. -/
inductive Value
  | code (n : Nat)
  | cls (complement : Bool) (k : CharClass)

def Value.member : Value → Member
  | code n => .range n n
  | cls complement k => .cls complement k

/-- An atom read: its first one or two characters, what it means, and what follows it. -/
structure Atom where
  text : List Char
  value : Value
  rest : List Char

/-- A fault `back` characters before what follows. -/
def faultAt (total : Nat) (rest : List Char) (back : Nat) (reason : String) : PatternFault :=
  ⟨reason, total - rest.length - back⟩

def isHex (c : Char) : Bool := (Number.hexValue? c).isSome

def isOctal (c : Char) : Bool := '0' ≤ c && c ≤ '7'

def controlCode? : Char → Option Nat
  | 'a' => some 7
  | 'b' => some 8
  | 'f' => some 12
  | 'n' => some 10
  | 'r' => some 13
  | 't' => some 9
  | 'v' => some 11
  | '\\' => some 92
  | _ => none

def classOf? : Char → Option Value
  | 'd' => some (.cls false .digit)
  | 'D' => some (.cls true .digit)
  | 's' => some (.cls false .space)
  | 'S' => some (.cls true .space)
  | 'w' => some (.cls false .word)
  | 'W' => some (.cls true .word)
  | _ => none

/-- The digits at the start, at most `n`. -/
def digitRun (isDigit : Char → Bool) (n : Nat) (cs : List Char) : List Char :=
  (cs.take n).takeWhile isDigit

/-- A code point of exactly `width` hexadecimal digits behind an escape letter. -/
def hexCode (total width : Nat) (letter : Char) (rest : List Char) : Except PatternFault Atom :=
  let ds := digitRun isHex width rest
  let rest := rest.drop ds.length
  let escape := '\\' :: letter :: ds
  let n := Number.ofDigits 16 ds
  if ds.length ≠ width then
    .error (faultAt total rest escape.length ("incomplete escape " ++ String.ofList escape))
  else if 0x110000 ≤ n then
    .error (faultAt total rest escape.length ("bad escape " ++ String.ofList escape))
  else .ok ⟨['\\', letter], .code n, rest⟩

def octalCode (total : Nat) (first : Char) (rest : List Char) : Except PatternFault Atom :=
  let ds := first :: digitRun isOctal 2 rest
  let rest := rest.drop (ds.length - 1)
  let n := Number.ofDigits 8 ds
  if 0o377 < n then
    .error (faultAt total rest (ds.length + 1)
      ("octal escape value \\" ++ String.ofList ds ++ " outside of range 0-0o377"))
  else .ok ⟨['\\', first], .code n, rest⟩

/-- A name up to its closing brace and, when there is one, what follows it. A character behind
a backslash does not end the name. -/
def bracedName : List Char → List Char × Option (List Char)
  | [] => ([], none)
  | '\x7d' :: rest => ([], some rest)
  | '\\' :: c :: rest => let (name, after) := bracedName rest; ('\\' :: c :: name, after)
  | c :: rest => let (name, after) := bracedName rest; (c :: name, after)

/-- An escape that names a character. -/
def namedCode (total : Nat) (rest : List Char) : Except PatternFault Atom :=
  match rest with
  | '\x7b' :: r =>
    match bracedName r with
    | ([], none) => .error (faultAt total [] 0 "missing character name")
    | (name, none) => .error (faultAt total [] name.length "missing \x7d, unterminated name")
    | ([], some after) => .error (faultAt total after 1 "missing character name")
    | (name, some after) =>
      match Text.codeNamed? name with
      | some n => .ok ⟨['\\', 'N'], .code n, after⟩
      | none => .error (faultAt total after (name.length + 4)
          ("undefined character name " ++ Text.quoted (String.ofList name)))
  | rest => .error (faultAt total rest 0 "missing \x7b")

/-- The atom behind a backslash. -/
def escaped (total : Nat) (c : Char) (rest : List Char) : Except PatternFault Atom :=
  match controlCode? c, classOf? c with
  | some n, _ => .ok ⟨['\\', c], .code n, rest⟩
  | none, some k => .ok ⟨['\\', c], k, rest⟩
  | none, none =>
    if c == 'x' then hexCode total 2 c rest
    else if c == 'u' then hexCode total 4 c rest
    else if c == 'U' then hexCode total 8 c rest
    else if c == 'N' then namedCode total rest
    else if isOctal c then octalCode total c rest
    else if c.isAlphanum then
      .error (faultAt total rest 2 ("bad escape " ++ String.ofList ['\\', c]))
    else .ok ⟨['\\', c], .code c.toNat, rest⟩

/-- The atom at the start of a text, none at its end. -/
def atom? (total : Nat) : List Char → Option (Except PatternFault Atom)
  | [] => none
  | ['\\'] => none
  | '\\' :: c :: rest => some (escaped total c rest)
  | c :: rest => some (.ok ⟨[c], .code c.toNat, rest⟩)

def range (total : Nat) (u v : Atom) : Except PatternFault Member :=
  let fault := faultAt total v.rest (u.text.length + 1 + v.text.length)
    ("bad character range " ++ String.ofList (u.text ++ '-' :: v.text))
  match u.value, v.value with
  | .code low, .code high => if high < low then .error fault else .ok (.range low high)
  | _, _ => .error fault

/-- The members up to the closing bracket, and the text behind it. A bracket closes only a
set that has members, and a hyphen before it stands for itself. `start` is the position
of the opening bracket. -/
def membersFrom (total start : Nat) : Nat → List Member → List Char →
    Except PatternFault (List Member × List Char)
  | 0, _, _ => .error ⟨"unterminated character set", start⟩
  | fuel + 1, found, cs =>
    match found, cs with
    | _ :: _, ']' :: rest => .ok (found.reverse, rest)
    | _, _ =>
      match atom? total cs with
      | none => .error ⟨"unterminated character set", start⟩
      | some (.error e) => .error e
      | some (.ok u) =>
        match u.rest with
        | '-' :: ']' :: rest =>
          .ok ((.range 45 45 :: u.value.member :: found).reverse, rest)
        | '-' :: behind =>
          match atom? total behind with
          | none => .error ⟨"unterminated character set", start⟩
          | some (.error e) => .error e
          | some (.ok v) =>
            match range total u v with
            | .error e => .error e
            | .ok m => membersFrom total start fuel (m :: found) v.rest
        | rest => membersFrom total start fuel (u.value.member :: found) rest

/-- A set behind its opening bracket in a pattern text of `total` characters. -/
def parse (total : Nat) (cs : List Char) : Except PatternFault (CharSet × List Char) :=
  let start := total - cs.length - 1
  let (negated, body) := match cs with
    | '^' :: rest => (true, rest)
    | rest => (false, rest)
  match membersFrom total start (body.length + 1) [] body with
  | .error e => .error e
  | .ok (ms, rest) => .ok (⟨negated, ms⟩, rest)

end CharSet

end Coselect.Glob
