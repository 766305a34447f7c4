import Coselect.Disk.Change

/-! What an analysis can ask of a disk. Only reading can fail; everything else takes what
cannot be reached for absent. -/

namespace Coselect.Disk

/-- When something was last modified, as its status tells it. Times that the status rounds to one
value are one stamp. -/
inductive Stamp
  | file (mtime : Int)
  | directory
  deriving DecidableEq, Repr

/-- Why a file's text is not there. -/
inductive ReadFault
  | unreadable
  /-- No encoding has this name. -/
  | unknownEncoding (name : String)
  deriving DecidableEq, Repr

inductive Query
  | isFile (path : String)
  | isDirectory (path : String)
  | names (path : String)
  | read (path : String)
  | stamp (path : String)
  deriving DecidableEq, Repr

abbrev Query.Answer : Query → Type
  | isFile _ => Bool
  | isDirectory _ => Bool
  | names _ => List String
  | read _ => Except ReadFault String
  | stamp _ => Option Stamp

/-- A tree, the paths by which nothing can be read, and the name of the encoding in which
files are read. -/
structure Volume where
  tree : Tree := .empty
  unreadable : List String := []
  encoding : String := "utf-8"

namespace Volume

def isFile (d : Volume) (path : String) : Bool := (d.tree.at? path).any Tree.isFile

def isDirectory (d : Volume) (path : String) : Bool := (d.tree.at? path).any Tree.isDirectory

def names (d : Volume) (path : String) : List String := ((d.tree.at? path).map Tree.names).getD []

def read (d : Volume) (path : String) : Except ReadFault String :=
  match d.unreadable.contains path, d.tree.at? path with
  | false, some (.file c _) =>
    match Text.Encoding.named? d.encoding with
    | none => .error (.unknownEncoding d.encoding)
    | some e =>
      match c.decode? e with
      | some text => .ok text
      | none => .error .unreadable
  | _, _ => .error .unreadable

def stamp (d : Volume) (path : String) : Option Stamp :=
  (d.tree.at? path).map fun
    | .file _ t => .file t
    | .directory _ => .directory

def answer (d : Volume) : (q : Query) → q.Answer
  | .isFile p => d.isFile p
  | .isDirectory p => d.isDirectory p
  | .names p => d.names p
  | .read p => d.read p
  | .stamp p => d.stamp p

end Volume

end Coselect.Disk
