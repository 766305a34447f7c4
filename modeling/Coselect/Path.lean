import Coselect.Text.Basic

/-! Paths in a tree with one root. A path is a text with slashes; the working directory is
the root. Normalizing resolves empty, `.` and `..` components and makes the path
absolute; exactly two leading slashes stay two. -/

namespace Coselect.Path

open Text

/-- The components left when `.` and `..` are resolved, `..` at the root being dropped. -/
def resolveDots (parts : List String) : List String :=
  (parts.foldl (fun acc part =>
    if part = "" ∨ part = "." then acc
    else if part = ".." then acc.drop 1
    else part :: acc) []).reverse

def leadingSlashes (path : String) : String :=
  if startsWith "//" path && !startsWith "///" path then "//" else "/"

/-- The absolute path without empty, `.` and `..` components. A path that does not begin with a
slash is taken from the root: there is no other working directory. -/
def normalize (path : String) : String :=
  leadingSlashes path ++ join "/" (resolveDots (split '/' path))

/-- The components of a path, empty ones left out. -/
def components (path : String) : List String := (split '/' path).filter (· ≠ "")

/-- A path taken from a directory; an absolute path stands for itself. -/
def combine (dir path : String) : String :=
  if startsWith "/" path then path
  else if dir = "" || endsWith "/" dir then dir ++ path
  else dir ++ "/" ++ path

def combineAll (dir : String) (parts : List String) : String := parts.foldl combine dir

/-- The path cut behind its last slash. -/
def cutAtSlash (path : List Char) : List Char × List Char :=
  let base := (path.reverse.takeWhile (· != '/')).reverse
  (path.take (path.length - base.length), base)

def baseName (path : String) : String := String.ofList (cutAtSlash path.toList).2

def directory (path : String) : String :=
  let head := (cutAtSlash path.toList).1
  let stripped := dropEndWhile (· == '/') head
  String.ofList (if stripped.isEmpty then head else stripped)

/-- A base name cut at its last point, unless only points come before it. -/
def cutBase (base : List Char) : List Char × List Char :=
  let tail := (base.reverse.takeWhile (· != '.')).reverse
  let stem := base.take (base.length - tail.length - 1)
  if tail.length = base.length || stem.all (· == '.') then (base, [])
  else (stem, '.' :: tail)

/-- The path without its suffix, and the suffix with its point. -/
def cutSuffix (path : String) : String × String :=
  let (head, base) := cutAtSlash path.toList
  let (stem, suffix) := cutBase base
  (String.ofList (head ++ stem), String.ofList suffix)

def suffix (path : String) : String := (cutSuffix path).2

def commonPrefix : List String → List String → Nat
  | a :: as, b :: bs => if a = b then commonPrefix as bs + 1 else 0
  | _, _ => 0

/-- The way from a directory to a path, `.` when they are the same. -/
def relative (path start : String) : String :=
  let origin := components (normalize start)
  let goal := components (normalize path)
  let n := commonPrefix origin goal
  let way := List.replicate (origin.length - n) ".." ++ goal.drop n
  if way.isEmpty then "." else join "/" way

end Coselect.Path
