import Coselect.Imports.Clause

/-! Recognizers for the four forms of import and the scan that looks for them. A
recognizer reads a form at the start of a text and says how many characters it took. The
scan tries it wherever a keyword may begin, that is not after a name character or a point,
and goes on behind each form found. -/

namespace Coselect.Imports

open Text

/-- What was recognized, and how many characters it takes. -/
structure Found (α : Type) where
  what : α
  length : Nat

def Found.longer (f : Found α) (n : Nat) : Found α := ⟨f.what, n + f.length⟩

/-- Runs a reader behind a leading part. -/
def behind (part : String) (read : List Char → Option (Found α)) (cs : List Char) :
    Option (Found α) :=
  (afterStart part.toList cs).bind fun rest => (read rest).map (·.longer part.toList.length)

/-- Runs a reader behind all blanks; there must be at least `least` of them. -/
def behindBlanks (least : Nat) (read : List Char → Option (Found α)) (cs : List Char) :
    Option (Found α) :=
  let n := (cs.takeWhile isBlank).length
  if n < least then none else (read (cs.drop n)).map (·.longer n)

def isSourceChar (c : Char) : Bool := c != '"' && c != '\'' && c != '\n'

/-- A source in quotes: not empty, on one line, and without a quote of either kind. -/
def quotedSource? : List Char → Option (Found (List Char))
  | [] => none
  | q :: cs =>
    let source := cs.takeWhile isSourceChar
    if (q == '"' || q == '\'') && !source.isEmpty && (cs.drop source.length).head? == some q then
      some ⟨source, source.length + 2⟩
    else none

/-- The word `from` and a quoted source behind it. -/
def fromSource? (cs : List Char) : Option (Found (List Char)) :=
  behindBlanks 0 (behind "from" (behindBlanks 0 quotedSource?)) cs

/-- A clause and its source. -/
abbrev Sourced := List Char × List Char

def isClauseStop (c : Char) : Bool :=
  c == ';' || c == '\'' || c == '"' || c == '\x60' || c == '(' || c == ')'

/-- The shortest clause that ` from ` and a source follow; `from` begins a word. -/
def clauseAndSource? : Char → List Char → Option (Found Sourced)
  | before, cs =>
    match if (cs.head?.any isBlank) || !isWord before then fromSource? cs else none with
    | some f => some ⟨([], f.what), f.length⟩
    | none =>
      match cs with
      | [] => none
      | c :: rest =>
        if isClauseStop c then none
        else (clauseAndSource? c rest).map fun f => ⟨(c :: f.what.1, f.what.2), f.length + 1⟩

/-- What follows the blanks behind `import`: a clause with its source or a bare source. -/
def importBody? (cs : List Char) : Option (Found Sourced) :=
  if cs.head? == some '(' then none
  else match clauseAndSource? ' ' cs with
    | some f => some f
    | none => (quotedSource? cs).map fun f => ⟨([], f.what), f.length⟩

def staticImport? (cs : List Char) : Option (Found Sourced) :=
  behind "import" (behindBlanks 1 importBody?) cs

/-- The source behind a star clause that binds a name. When the name runs into `from`, its
last four letters are that word. -/
def starAs? (cs : List Char) : Option (Found Sourced) :=
  let lead := (cs.takeWhile isBlank).length
  match afterStart "as".toList (cs.drop lead) with
  | none => none
  | some rest =>
    let gap := (rest.takeWhile isBlank).length
    let behindName := rest.drop gap
    let name := behindName.takeWhile isName
    if gap = 0 ∨ name.isEmpty then none
    else
      let taken (n : Nat) : List Char := '*' :: cs.take (lead + 2 + gap + n)
      match fromSource? (behindName.drop name.length) with
      | some f => some ⟨(taken name.length, f.what), (taken name.length).length + f.length⟩
      | none =>
        let short := name.length - 4
        if short = 0 ∨ name.drop short ≠ "from".toList then none
        else (fromSource? (behindName.drop short)).map fun f =>
          ⟨(taken short, f.what), (taken short).length + f.length⟩

/-- What follows the keyword of a re-export: a star or a pair of braces, and a source. -/
def reexportBody? : List Char → Option (Found Sourced)
  | [] => none
  | c :: cs =>
    if c == '*' then
      match starAs? cs with
      | some f => some f
      | none => (fromSource? cs).map fun f => ⟨(['*'], f.what), f.length + 1⟩
    else if c == '\x7b' then
      let inner := cs.takeWhile fun d => d != '\x7b' && d != '\x7d'
      match cs.drop inner.length with
      | d :: rest =>
        if d == '\x7d' then
          let clause := c :: inner ++ [d]
          (fromSource? rest).map fun f => ⟨(clause, f.what), clause.length + f.length⟩
        else none
      | [] => none
    else none

def reexport? (cs : List Char) : Option (Found Sourced) :=
  behind "export" (behindBlanks 1 fun cs =>
    match behind "type" (behindBlanks 1 reexportBody?) cs with
    | some f => some f
    | none => reexportBody? cs) cs

/-- The call of `require` behind an equals sign. -/
def requireCall? (cs : List Char) : Option (Found (List Char)) :=
  behindBlanks 0 (behind "require" (behindBlanks 0 (behind "(" (behindBlanks 0 fun cs =>
    (quotedSource? cs).bind fun f =>
      (behindBlanks 0 (behind ")" fun _ => some ⟨f.what, 0⟩) (cs.drop f.length)).map
        (·.longer f.length))))) cs

/-- Where the search for the equals sign of a binding stands: outside, or inside a pair of
braces or brackets. -/
inductive Nesting
  | outside
  | inside (opener closer : Char)

/-- The first equals sign outside braces and brackets, with the call behind it. A pair holds
neither its opener nor, before its end, its closer. -/
def bindingCall? : Nesting → List Char → Option (Found (List Char))
  | _, [] => none
  | .inside o e, c :: cs =>
    if c == o then none
    else (bindingCall? (if c == e then .outside else .inside o e) cs).map (·.longer 1)
  | .outside, c :: cs =>
    if c == '=' then (requireCall? cs).map (·.longer 1)
    else if c == '\x7b' then (bindingCall? (.inside '\x7b' '\x7d') cs).map (·.longer 1)
    else if c == '[' then (bindingCall? (.inside '[' ']') cs).map (·.longer 1)
    else if c == ';' || c == '\x7d' || c == ']' then none
    else (bindingCall? .outside cs).map (·.longer 1)

def require? (cs : List Char) : Option (Found (List Char)) :=
  ["const", "let", "var", "import"].findSome? fun keyword =>
    behind keyword (behindBlanks 1 (bindingCall? .outside)) cs

/-- A source in quotes or backquotes as the only argument. -/
def argument? (cs : List Char) : Option (Found (List Char)) :=
  match cs with
  | [] => none
  | q :: rest =>
    let isPlain (c : Char) : Bool := isSourceChar c && c != '\x60'
    let source := rest.takeWhile isPlain
    if (q == '"' || q == '\'' || q == '\x60') && !source.isEmpty
        && (rest.drop source.length).head? == some q then
      (behindBlanks 0 (behind ")" fun _ => some ⟨source, 0⟩) (rest.drop (source.length + 1))).map
        (·.longer (source.length + 2))
    else none

def dynamicImport? (cs : List Char) : Option (Found (List Char)) :=
  behind "import" (behindBlanks 0 (behind "(" (behindBlanks 0 argument?))) cs

/-- Whether a keyword may begin after this character. -/
def mayPrecede : Option Char → Bool
  | none => true
  | some c => !isName c && c != '.'

/-- Everything a recognizer finds, with its offset. The counter skips the rest of a form
just found. -/
def scanFrom (read : List Char → Option (Found α)) :
    Nat → Option Char → Nat → List Char → List (Nat × α)
  | _, _, _, [] => []
  | offset, _, k + 1, c :: cs => scanFrom read (offset + 1) (some c) k cs
  | offset, before, 0, c :: cs =>
    match if mayPrecede before then read (c :: cs) else none with
    | some f => (offset, f.what) :: scanFrom read (offset + 1) (some c) (f.length - 1) cs
    | none => scanFrom read (offset + 1) (some c) 0 cs

def scan (read : List Char → Option (Found α)) (cs : List Char) : List (Nat × α) :=
  scanFrom read 0 none 0 cs

end Coselect.Imports
