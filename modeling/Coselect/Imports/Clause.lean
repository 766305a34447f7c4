import Coselect.Text.Basic

/-! The names bound by the clause between a keyword and `from`: the default binding, then
the named ones, then the namespace as `* as name`. A clause with a character that no
clause has, or with braces other than one pair at most, is malformed. -/

namespace Coselect.Imports

open Text

def isClauseChar (c : Char) : Bool :=
  isName c || isBlank c || c == '*' || c == '\x7b' || c == '\x7d' || c == ','

/-- The clause without blanks at its ends and without a leading `type`. -/
def clauseBody (clause : List Char) : List Char :=
  let body := trimChars clause
  match afterStart "type".toList body with
  | some (c :: rest) => if c == ' ' || c == '\x7b' then trimChars (c :: rest) else body
  | _ => body

def isMalformed (body : List Char) : Bool :=
  body.count '\x7b' != body.count '\x7d' || 1 < body.count '\x7b' || !body.all isClauseChar

/-- A name at the start, when a comma or the end follows it. -/
def defaultBinding (body : List Char) : List (List Char) :=
  let name := body.takeWhile isName
  match (body.dropWhile isName).dropWhile isBlank with
  | [] => if name.isEmpty then [] else [name]
  | c :: _ => if name.isEmpty || c != ',' then [] else [name]

/-- What stands between the first opening brace that a closing one follows and that one. -/
def braced? : List Char → Option (List Char)
  | [] => none
  | c :: cs =>
    if c == '\x7b' && cs.contains '\x7d' then some (cs.takeWhile (· != '\x7d')) else braced? cs

def namedBindings (body : List Char) : List (List Char) :=
  match braced? body with
  | none => []
  | some inner => ((splitAt ',' inner).map trimChars).filter (!·.isEmpty)

/-- The name after `as`, with blanks in front allowed. -/
def asName? (cs : List Char) : Option (List Char) :=
  match afterStart "as".toList (cs.dropWhile isBlank) with
  | none => none
  | some rest =>
    let name := (rest.dropWhile isBlank).takeWhile isName
    if (rest.takeWhile isBlank).isEmpty || name.isEmpty then none else some name

/-- The name of the first star that has one. -/
def namespaceBinding : List Char → List (List Char)
  | [] => []
  | c :: cs =>
    match if c == '*' then asName? cs else none with
    | some name => ["* as ".toList ++ name]
    | none => namespaceBinding cs

def clauseNames? (clause : List Char) : Option (List String) :=
  let body := clauseBody clause
  if isMalformed body then none
  else some ((defaultBinding body ++ namedBindings body ++ namespaceBinding body).map String.ofList)

end Coselect.Imports
