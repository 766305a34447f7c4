import Coselect.Glob.Piece
import Coselect.Glob.Set

/-! Compiled globs and what they match. The pattern text of a glob is read back item by
item; a text matches when it can be cut into parts that the items take one by one. The
flag says whether the points of a pattern take line feeds too. -/

namespace Coselect.Glob

inductive Item
  | char (c : Char)
  | set (s : CharSet)
  | sets (s : CharSet)
  | directories
  | below
  | anything
  deriving DecidableEq, Repr

/-- The items of a pattern text of `total` characters. -/
def itemsFrom (total : Nat) : Nat → List Char → Except PatternFault (List Item)
  | 0, _ => .ok []
  | fuel + 1, cs =>
    match cs with
    | [] => .ok []
    | '[' :: rest =>
      match CharSet.parse total rest with
      | .error e => .error e
      | .ok (s, '*' :: rest) => (itemsFrom total fuel rest).map (.sets s :: ·)
      | .ok (s, rest) => (itemsFrom total fuel rest).map (.set s :: ·)
    | '\\' :: c :: rest => (itemsFrom total fuel rest).map (.char c :: ·)
    | c :: rest =>
      match Text.afterStart "(?:.*/)?".toList cs, Text.afterStart "(?:/.*)?".toList cs,
          Text.afterStart ".*".toList cs with
      | some rest, _, _ => (itemsFrom total fuel rest).map (.directories :: ·)
      | none, some rest, _ => (itemsFrom total fuel rest).map (.below :: ·)
      | none, none, some rest => (itemsFrom total fuel rest).map (.anything :: ·)
      | none, none, none => (itemsFrom total fuel rest).map (.char c :: ·)

def compileText (text : List Char) : Except PatternFault (List Item) :=
  itemsFrom text.length text.length text

/-- The items of a glob, or the text of what is wrong with its classes. -/
def compile (pattern : String) : Except String (List Item) :=
  let text := patternText pattern.toList
  (compileText text).mapError (·.message text)

/-- Whether what is left after some leading characters satisfies a condition. -/
def afterRun (inRun : Char → Bool) (ok : List Char → Bool) : List Char → Bool
  | [] => ok []
  | c :: cs => ok (c :: cs) || (inRun c && afterRun inRun ok cs)

/-- Whether what is left after some leading characters and a slash does. -/
def afterSlash (inRun : Char → Bool) (ok : List Char → Bool) : List Char → Bool
  | [] => false
  | c :: cs => (c == '/' && ok cs) || (inRun c && afterSlash inRun ok cs)

def isPoint (dotAll : Bool) (c : Char) : Bool := dotAll || c != '\n'

def matchItems (dotAll : Bool) : List Item → List Char → Bool
  | [], s => s.isEmpty
  | .char c :: is, s =>
    match s with
    | d :: s => c == d && matchItems dotAll is s
    | [] => false
  | .set k :: is, s =>
    match s with
    | d :: s => k.has d && matchItems dotAll is s
    | [] => false
  | .sets k :: is, s => afterRun k.has (matchItems dotAll is) s
  | .anything :: is, s => afterRun (isPoint dotAll) (matchItems dotAll is) s
  | .directories :: is, s =>
    matchItems dotAll is s || afterSlash (isPoint dotAll) (matchItems dotAll is) s
  | .below :: is, s =>
    matchItems dotAll is s ||
      match s with
      | '/' :: s => afterRun (isPoint dotAll) (matchItems dotAll is) s
      | _ => false

/-- Whether a compiled glob takes the whole of a path, line feeds included. -/
def matchPath (items : List Item) (path : String) : Bool := matchItems true items path.toList

/-- Whether a compiled glob takes the whole of a single name. -/
def matchName (items : List Item) (name : String) : Bool := matchItems false items name.toList

end Coselect.Glob
