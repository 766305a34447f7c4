import Coselect.Disk.Tree

/-! Changes of a tree: making directories, writing and deleting. A change may come upon an
obstacle; what was done up to there stays done. -/

namespace Coselect.Disk

/-- The tree after a change, and the obstacle it came upon. -/
abbrev Changed := Tree × Option Obstacle

namespace Tree

/-- Whether components, the last one first, lead to something for which a test holds. -/
def leadsTo (t : Tree) (test : Tree → Bool) (above : List String) : Bool :=
  match t.follow [] above.reverse with
  | .ok place => (t.find? place).any test
  | .error _ => false

/-- The place of a name in the directory that components lead to, the last one first. -/
def placeIn (t : Tree) (above : List String) (name : String) : Except Obstacle (List String) :=
  match t.follow [] above.reverse with
  | .error o => .error o
  | .ok place =>
    match t.find? place, faultOfName? name with
    | some (.directory _), none => .ok (place ++ [name])
    | some (.directory _), some o => .error o
    | _, _ => .error .notDirectory

def isDots (name : String) : Bool := name == "." || name == ".."

/-- Makes one directory where nothing is yet. -/
def makeOne (t : Tree) : List String → Changed
  | [] => (t, some .occupied)
  | name :: above =>
    match t.placeIn above name with
    | .error o => (t, some o)
    | .ok place =>
      if isDots name || (t.find? place).isSome then (t, some .occupied)
      else (t.put place .empty, none)

/-- A change in which something that is there already is no obstacle. -/
def unlessOccupied : Changed → Changed
  | (t, some .occupied) => (t, none)
  | r => r

/-- Makes a directory, given by its components with the last one first, and first those above
it. One that is there already is no obstacle. -/
def makeAll (t : Tree) : List String → Changed
  | [] => (t, none)
  | name :: above =>
    let isNew := !above.isEmpty && !t.leadsTo (fun _ => true) above
    match if isNew then unlessOccupied (makeAll t above) else (t, none) with
    | (t, some o) => (t, some o)
    | (t, none) =>
      if isNew && name == "." then (t, none)
      else match t.makeOne (name :: above) with
        | (t, some o) => if t.leadsTo isDirectory (name :: above) then (t, none) else (t, some o)
        | r => r

def makeDirectory (t : Tree) (path : String) : Changed :=
  match faultOfPath? path with
  | some .tooLong => (t, some .tooLong)
  | _ => t.makeAll (Path.components path).reverse

/-- Puts a file at the end of a path whose directories are there. -/
def putFile (t : Tree) (path : String) (new : Tree) : Changed :=
  match faultOfPath? path, (Path.components path).reverse with
  | some o, _ => (t, some o)
  | none, [] => (t, some .isDirectory)
  | none, name :: above =>
    match t.placeIn above name with
    | .error o => (t, some o)
    | .ok place =>
      if isDots name || Text.endsWith "/" path || (t.find? place).any isDirectory then
        (t, some .isDirectory)
      else (t.put place new, none)

/-- Writes a file, and first makes the directories that lead to it. -/
def write (t : Tree) (path : String) (content : Content) (modified : Int) : Changed :=
  let parts := (Path.components path).reverse
  match t.makeAll (if Text.endsWith "/" path then parts else parts.drop 1) with
  | (t, some o) => (t, some o)
  | (t, none) => t.putFile path (.file content modified)

/-- Deletes a file or a whole directory. Of a directory under the name of `.` or `..` only the
entries go. -/
def delete (t : Tree) (path : String) : Changed :=
  match t.placeOf path with
  | .error o => (t, some o)
  | .ok place =>
    if (Path.components path).getLast?.any isDots then
      let emptied := t.put place .empty
      match emptied.placeOf path with
      | .error o => (emptied, some o)
      | .ok _ => (emptied, some .ownName)
    else (t.remove place, none)

end Tree

end Coselect.Disk
