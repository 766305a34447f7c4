import Coselect.Text.CharClass

/-! Cutting and joining texts, on lists of characters with a face for strings. -/

namespace Coselect.Text

/-- The parts between the separators; always one more than there are separators. -/
def splitAt (sep : Char) : List Char → List (List Char)
  | [] => [[]]
  | c :: cs =>
    if c == sep then [] :: splitAt sep cs
    else match splitAt sep cs with
      | [] => [[c]]
      | part :: parts => (c :: part) :: parts

def split (sep : Char) (s : String) : List String :=
  (splitAt sep s.toList).map String.ofList

def joinWith (sep : List Char) : List (List Char) → List Char
  | [] => []
  | [part] => part
  | part :: parts => part ++ sep ++ joinWith sep parts

def join (sep : String) (parts : List String) : String :=
  String.ofList (joinWith sep.toList (parts.map String.toList))

def dropEndWhile (p : Char → Bool) (cs : List Char) : List Char :=
  (cs.reverse.dropWhile p).reverse

def trimBy (p : Char → Bool) (cs : List Char) : List Char :=
  dropEndWhile p (cs.dropWhile p)

/-- Without the blanks at both ends. -/
def trimChars (cs : List Char) : List Char := trimBy isBlank cs

def trim (s : String) : String := String.ofList (trimChars s.toList)

/-- What follows a leading part, when the text starts with it. -/
def afterStart : List Char → List Char → Option (List Char)
  | [], cs => some cs
  | _ :: _, [] => none
  | p :: ps, c :: cs => if p == c then afterStart ps cs else none

def startsWith (part s : String) : Bool := (afterStart part.toList s.toList).isSome

def endsWith (part s : String) : Bool :=
  (afterStart part.toList.reverse s.toList.reverse).isSome

/-- Every occurrence of `old` replaced, from the left; `old` is not empty. The counter
skips the rest of an occurrence just replaced. -/
def replaceFrom (old new : List Char) : Nat → List Char → List Char
  | _, [] => []
  | k + 1, _ :: cs => replaceFrom old new k cs
  | 0, c :: cs =>
    if (afterStart old (c :: cs)).isSome then new ++ replaceFrom old new (old.length - 1) cs
    else c :: replaceFrom old new 0 cs

def replace (old new s : String) : String :=
  String.ofList (replaceFrom old.toList new.toList 0 s.toList)

/-- Whether a part occurs anywhere in a text. -/
def containsPart (part : List Char) : List Char → Bool
  | [] => part.isEmpty
  | c :: cs => (afterStart part (c :: cs)).isSome || containsPart part cs

/-- Ascending by code point, without repetitions. -/
def sortedSet (xs : List String) : List String :=
  (xs.mergeSort fun a b => decide (a ≤ b)).eraseDups

end Coselect.Text
