import Coselect.Text.Basic

/-! Globs as sequences of pieces. Longer runs of stars count as two; `**` with a slash behind
it stands for any directories, and at the end with a slash before it for everything below
one; `*` and `?` stay inside a component; a bracket class reaches to the next closing
bracket, and a bracket without one is an ordinary character.

In the pattern text of a glob a class may run on: a set closes at the first closing bracket
that is neither its first character nor escaped, so the class of `[]` or of a body that ends
in a backslash takes in the text of the pieces behind it. -/

namespace Coselect.Glob

/-- Runs of three stars or more cut down to two; the counter holds the stars just passed. -/
def collapseFrom : Nat → List Char → List Char
  | _, [] => []
  | stars, c :: cs =>
    if c == '*' then
      if 2 ≤ stars then collapseFrom stars cs else '*' :: collapseFrom (stars + 1) cs
    else c :: collapseFrom 0 cs

def collapseStars (cs : List Char) : List Char := collapseFrom 0 cs

inductive Piece
  /-- The character itself. -/
  | char (c : Char)
  /-- Any directories with their slashes, or nothing. -/
  | directories
  /-- A slash and everything behind it, or nothing. -/
  | below
  /-- Any characters. -/
  | anything
  /-- Any characters but slashes. -/
  | run
  /-- One character that is not a slash. -/
  | single
  /-- One of a set of characters, in the notation of `Set.parse`. -/
  | bracket (body : List Char)
  deriving DecidableEq, Repr

def bracketBody (body : List Char) : List Char :=
  match body with
  | '!' :: rest => '^' :: rest
  | body => body

/-- The pieces of a glob whose runs of stars are collapsed. The counter skips characters of
a piece already read. -/
def piecesFrom : Nat → List Char → List Piece
  | _, [] => []
  | k + 1, _ :: cs => piecesFrom k cs
  | 0, c :: cs =>
    match c, cs with
    | '*', '*' :: '/' :: _ => .directories :: piecesFrom 2 cs
    | '/', ['*', '*'] => [.below]
    | '*', '*' :: _ => .anything :: piecesFrom 1 cs
    | '*', _ => .run :: piecesFrom 0 cs
    | '?', _ => .single :: piecesFrom 0 cs
    | '[', _ =>
      if cs.contains ']' then
        let body := cs.takeWhile (· != ']')
        .bracket (bracketBody body) :: piecesFrom (body.length + 1) cs
      else .char c :: piecesFrom 0 cs
    | _, _ => .char c :: piecesFrom 0 cs

def pieces (pattern : List Char) : List Piece := piecesFrom 0 (collapseStars pattern)

def isSpecial (c : Char) : Bool :=
  "()[]\x7b\x7d?*+-|^$\\.&~# \t\n\r\x0b\x0c".toList.contains c

def Piece.text : Piece → List Char
  | .char c => if isSpecial c then ['\\', c] else [c]
  | .directories => "(?:.*/)?".toList
  | .below => "(?:/.*)?".toList
  | .anything => ".*".toList
  | .run => "[^/]*".toList
  | .single => "[^/]".toList
  | .bracket body => '[' :: body ++ [']']

def patternText (pattern : List Char) : List Char := (pieces pattern).flatMap Piece.text

end Coselect.Glob
