import Coselect.Number.Digits
import Coselect.Text.Basic
import Coselect.Text.Decoding

/-! The path that the target of a request names. A query and a fragment are cut off, `.` and
`..` segments are resolved, and then octets in percent notation are read. A target may be a
whole address, or name an authority alone, which is dropped. -/

namespace Coselect.Api.Target

/-- The most characters a target may have. -/
def maxLength : Nat := 65536

def isControl (c : Char) : Bool := c.toNat < 32 || c.toNat == 127

def isSchemeChar (c : Char) : Bool := c.isAlphanum || c == '+' || c == '.' || c == '-'

/-- What follows a scheme, if a target starts with one. -/
def afterScheme? : List Char → Option (List Char)
  | c :: cs =>
    match c.isAlpha, cs.dropWhile isSchemeChar with
    | true, ':' :: rest => some rest
    | _, _ => none
  | [] => none

/-- The parts of a target: whether it has a scheme, its authority and its path. -/
structure Parts where
  hasScheme : Bool
  authority : List Char
  path : List Char

def partsOf (cs : List Char) : Parts :=
  let cs := cs.takeWhile fun c => c != '?' && c != '#'
  let (hasScheme, cs) := match afterScheme? cs with
    | some rest => (true, rest)
    | none => (false, cs)
  match cs with
  | '/' :: '/' :: rest => ⟨hasScheme, rest.takeWhile (· != '/'), rest.dropWhile (· != '/')⟩
  | path => ⟨hasScheme, [], path⟩

/-- Whether a path may stand alone: not with two slashes or a colon in front. -/
def Parts.isWellFormed (p : Parts) : Bool :=
  p.hasScheme || !p.authority.isEmpty || match p.path with
    | '/' :: '/' :: _ | ':' :: _ => false
    | _ => true

/-- The segments of a path without `.` and `..`; the part before the first slash stays. -/
def resolved (segments : List (List Char)) : List (List Char) :=
  (segments.foldl (fun acc segment =>
    if segment = ['.'] then acc
    else if segment = ['.', '.'] then if acc = [[]] then acc else acc.drop 1
    else segment :: acc) []).reverse

def octetsOf (c : Char) : List UInt8 := (String.ofList [c]).toUTF8.toList

/-- The octets of a text, with those in percent notation read. -/
def octets : List Char → List UInt8
  | '%' :: a :: b :: cs =>
    match Number.hexValue? a, Number.hexValue? b with
    | some m, some n => UInt8.ofNat (16 * m + n) :: octets cs
    | _, _ => octetsOf '%' ++ octets (a :: b :: cs)
  | c :: cs => octetsOf c ++ octets cs
  | [] => []

/-- The path a target names, none when it is no target. -/
def path? (target : String) : Option String :=
  let cs := target.toList
  let parts := partsOf cs
  if maxLength < cs.length || cs.any isControl || !parts.isWellFormed then none
  else
    let path := '/' :: parts.path.dropWhile (· == '/')
    let path := Text.joinWith ['/'] (resolved (Text.splitAt '/' path))
    let text := Text.decodeFrom .none (octets path)
    some (String.ofList (if text.isEmpty then ['/'] else text))

end Coselect.Api.Target
