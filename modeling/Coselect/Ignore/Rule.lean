import Coselect.Glob.Matcher
import Coselect.Glob.Safety

/-! One line of an ignore file. Blank lines and comments are no rules. An exclamation mark
negates, a slash at the end restricts the rule to directories, and a slash elsewhere
anchors it: an anchored rule is matched against the whole path from the root, any other
against the last component alone.

In a list of rules the last one that matches a file or directory decides; a path is ignored
when it or a directory above it is, so nothing below an ignored directory comes back. -/

namespace Coselect.Ignore

open Text

structure Rule where
  pattern : String
  negated : Bool
  directoryOnly : Bool
  anchored : Bool
  items : List Glob.Item
  deriving DecidableEq, Repr

/-- Why a line makes no rule: its pattern is too costly to match, or a class in it is ill
formed. -/
inductive LineError
  | tooCostly (pattern : String) (excess : Glob.Excess)
  | illFormed (message : String)
  deriving DecidableEq, Repr

namespace Rule

/-- The pattern behind the marks that open a line, and whether it is negated. -/
def opened (line : List Char) : Bool × List Char :=
  let (negated, rest) := match line with
    | '!' :: rest => (true, trimChars rest)
    | rest => (false, rest)
  match rest with
  | '\\' :: rest => (negated, rest)
  | rest => (negated, rest)

def isSlash (c : Char) : Bool := c == '/'

def ofLine (line : String) : Except LineError (Option Rule) :=
  let text := trimChars line.toList
  if text.isEmpty || text.head? == some '#' then .ok none
  else
    let (negated, pattern) := opened text
    let body := trimBy isSlash pattern
    if body.isEmpty then .ok none
    else match Glob.excess? body with
      | some e => .error (.tooCostly (String.ofList body) e)
      | none =>
        match Glob.compile (String.ofList body) with
        | .error message => .error (.illFormed message)
        | .ok items => .ok (some
            { pattern := String.ofList pattern, negated, items
              directoryOnly := pattern.getLast? == some '/'
              anchored := (dropEndWhile isSlash pattern).contains '/' })

def lastComponent (path : String) : String :=
  String.ofList (path.toList.reverse.takeWhile (· != '/')).reverse

/-- Whether the rule matches a file or directory, whatever the directories above it. -/
def matchesEntry (r : Rule) (path : String) (isDirectory : Bool) : Bool :=
  (!r.directoryOnly || isDirectory) &&
    Glob.matchPath r.items (if r.anchored then path else lastComponent path)

end Rule

/-- The directories above a path from the top down and the path itself, each with whether
it is a directory. -/
def ancestry (path : String) : List (String × Bool) :=
  let parts := (split '/' path).filter (· ≠ "")
  (List.range parts.length).map fun i => (join "/" (parts.take (i + 1)), i + 1 < parts.length)

/-- Whether the rule matches a file or one of the directories above it. -/
def Rule.matches (r : Rule) (path : String) : Bool :=
  (ancestry path).any fun (p, isDirectory) => r.matchesEntry p isDirectory

abbrev Rules := List Rule

namespace Rules

/-- The rules of some lines behind those already there; lines too costly to match are
dropped. -/
def add (rules : Rules) : List String → Except String Rules
  | [] => .ok rules
  | line :: rest =>
    match Rule.ofLine line with
    | .error (.tooCostly ..) => add rules rest
    | .error (.illFormed message) => .error message
    | .ok none => add rules rest
    | .ok (some r) => add (rules ++ [r]) rest

def ofLines (lines : List String) : Except String Rules := add [] lines

/-- Whether the last rule that matches an entry ignores it. -/
def decides (rules : Rules) (path : String) (isDirectory : Bool) : Bool :=
  match rules.reverse.find? (·.matchesEntry path isDirectory) with
  | some r => !r.negated
  | none => false

def ignores (rules : Rules) (path : String) : Bool :=
  (ancestry path).any fun (p, isDirectory) => rules.decides p isDirectory

end Rules

end Coselect.Ignore
