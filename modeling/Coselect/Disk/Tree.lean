import Coselect.Path
import Coselect.Text.Encoding
import Coselect.Text.Lines

/-! A tree of directories and files. A path leads through it component by component; empty
and `.` components stand for the directory reached, `..` for the one above it, so whatever
follows a file leads nowhere. -/

namespace Coselect.Disk

inductive Content
  | text (s : String)
  | bytes (bs : List UInt8)

def Content.octets : Content → List UInt8
  | text s => s.toUTF8.toList
  | bytes bs => bs

/-- The text of a file's content, every line end read as a line feed. -/
def Content.decode? (encoding : Text.Encoding) (c : Content) : Option String :=
  let cs := match encoding, c with
    | .utf8, .text s => some s.toList
    | e, c => e.decode c.octets
  cs.map fun cs => String.ofList (Text.unifyLineEnds cs)

/-- A file says when it was last modified, in the value that its status gives. -/
inductive Tree
  | file (content : Content) (modified : Int)
  | directory (children : List (String × Tree))

/-- What stands in the way of a path. -/
inductive Obstacle
  | missing
  | notDirectory
  | isDirectory
  | occupied
  | tooLong
  /-- A name with the character that ends texts. -/
  | zeroCharacter
  /-- A directory is to be deleted under the name of `.` or `..`. -/
  | ownName
  deriving DecidableEq, Repr

/-- The most bytes of a path and of a name. -/
def maxPathSize : Nat := 4095
def maxNameSize : Nat := 255

/-- What is wrong with a name, if no entry can have it. -/
def faultOfName? (name : String) : Option Obstacle :=
  if name.toList.contains (Char.ofNat 0) then some .zeroCharacter
  else if maxNameSize < name.utf8ByteSize then some .tooLong
  else none

/-- What is wrong with a path as a whole. -/
def faultOfPath? (path : String) : Option Obstacle :=
  if path.toList.contains (Char.ofNat 0) then some .zeroCharacter
  else if maxPathSize < path.utf8ByteSize then some .tooLong
  else none

namespace Tree

def empty : Tree := directory []

def isFile : Tree → Bool
  | file .. => true
  | directory _ => false

def isDirectory (t : Tree) : Bool := !t.isFile

def child? (t : Tree) (name : String) : Option Tree :=
  match t with
  | file .. => none
  | directory cs => cs.lookup name

def find? : Tree → List String → Option Tree
  | t, [] => some t
  | t, name :: names => (t.child? name).bind (find? · names)

def setChild (name : String) (t : Tree) : List (String × Tree) → List (String × Tree)
  | [] => [(name, t)]
  | (n, c) :: cs => if n = name then (name, t) :: cs else (n, c) :: setChild name t cs

/-- Puts something at a place, with the directories that lead to it. -/
def put : Tree → List String → Tree → Tree
  | _, [], new => new
  | t, name :: names, new =>
    let children := match t with
      | file .. => []
      | directory cs => cs
    directory (setChild name (put ((t.child? name).getD empty) names new) children)

/-- Takes away what is at a place; the root is only emptied. -/
def remove : Tree → List String → Tree
  | _, [] => empty
  | file c m, _ => file c m
  | directory cs, [name] => directory (cs.filter fun c => c.1 ≠ name)
  | directory cs, name :: names =>
    match cs.lookup name with
    | some t => directory (setChild name (remove t names) cs)
    | none => directory cs

/-- Follows the components of a path from a directory, the one nearest to the root last, to
the place it leads to. -/
def follow (t : Tree) : List String → List String → Except Obstacle (List String)
  | above, [] => .ok above.reverse
  | above, part :: parts =>
    match t.find? above.reverse with
    | none => .error .missing
    | some (.file ..) => .error .notDirectory
    | some (.directory cs) =>
      if part = "" ∨ part = "." then follow t above parts
      else if part = ".." then follow t (above.drop 1) parts
      else match faultOfName? part, cs.lookup part with
        | some o, _ => .error o
        | none, none => .error .missing
        | none, some _ => follow t (part :: above) parts

/-- The place a path leads to. -/
def placeOf (t : Tree) (path : String) : Except Obstacle (List String) :=
  match faultOfPath? path with
  | some o => .error o
  | none => t.follow [] (Text.split '/' path)

/-- What a path leads to. -/
def at? (t : Tree) (path : String) : Option Tree :=
  match t.placeOf path with
  | .ok place => t.find? place
  | .error _ => none

def names : Tree → List String
  | file .. => []
  | directory cs => (cs.map Prod.fst).mergeSort fun a b => decide (a ≤ b)

end Tree

end Coselect.Disk
