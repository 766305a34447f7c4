import Coselect.Fault
import Coselect.Path

/-! Path aliases: patterns in declaration order, each with targets that are tried in order.
The table is read from the compiler options of a mapping document. In a pattern a star stands
for any characters but line feeds, everything else for itself, and a line feed at the very end
of the specifier may be left over. The first star takes as much as it can. -/

namespace Coselect.Alias

/-- Whether what is left after some leading characters on one line satisfies a condition. -/
def afterLine (ok : List Char → Bool) : List Char → Bool
  | [] => ok []
  | c :: cs => ok (c :: cs) || (c != '\n' && afterLine ok cs)

def takes : List Char → List Char → Bool
  | [], s => s.isEmpty || s == ['\n']
  | p :: ps, s =>
    if p == '*' then afterLine (takes ps) s
    else match s with
      | c :: cs => p == c && takes ps cs
      | [] => false

/-- The longest leading part on one line after which the rest satisfies a condition. -/
def longest (ok : List Char → Bool) : List Char → Option (List Char)
  | [] => if ok [] then some [] else none
  | c :: cs =>
    match if c == '\n' then none else longest ok cs with
    | some part => some (c :: part)
    | none => if ok (c :: cs) then some [] else none

/-- What the first star of a pattern stands for in a specifier that it matches; empty for a
pattern without a star. -/
def capture? : List Char → List Char → Option (List Char)
  | [], s => if s.isEmpty || s == ['\n'] then some [] else none
  | p :: ps, s =>
    if p == '*' then longest (takes ps) s
    else match s with
      | c :: cs => if p == c then capture? ps cs else none
      | [] => none

/-! ### The table -/

/-- The directory the targets start from, and the targets of each pattern. -/
structure Mapping where
  baseDir : String
  paths : List (String × List String)

namespace Mapping

def empty (root : String) : Mapping := ⟨root, []⟩

def size (m : Mapping) : Nat := m.paths.length

def takes (m : Mapping) (specifier : String) : Bool :=
  m.paths.any fun (pattern, _) => (capture? pattern.toList specifier.toList).isSome

/-- The paths a specifier may stand for. -/
def candidates (m : Mapping) (specifier : String) : List String :=
  m.paths.flatMap fun (pattern, targets) =>
    match capture? pattern.toList specifier.toList with
    | none => []
    | some part => targets.map fun target =>
      Path.normalize (Path.combine m.baseDir (Text.replace "*" (String.ofList part) target))

/-- A field of an object, with unset values read as the default. -/
def setting (doc : Json) (name : String) : Except Failure (Option Json) :=
  match doc with
  | .obj _ => .ok ((doc.field? name).filter Json.isTruthy)
  | _ => .error .notAnObject

def targetsOf : String × Json → Option (String × List String)
  | (pattern, .arr targets) => some (pattern, targets.map Json.plain)
  | _ => none

/-- The mapping of a document: the base directory defaults to the workspace root, and paths
whose targets are no list are left out. -/
def ofDocument (root : String) (doc : Json) : Except Failure Mapping := do
  let options := (← setting doc "compilerOptions").getD (.obj [])
  let base ← setting options "baseUrl"
  let paths ← match (← setting options "paths").getD (.obj []) with
    | .obj fs => .ok (fs.filterMap targetsOf)
    | _ => .error .notAnObject
  match base.getD (.str "") with
  | .str dir => .ok ⟨Path.normalize (Path.combine root dir), paths⟩
  | _ => .error .notAText

def toJson (m : Mapping) : Json :=
  .obj [("base_dir", .str m.baseDir),
    ("paths", .arr (m.paths.map fun (p, ts) => .arr [.str p, .strings ts])), ("len", .nat m.size)]

end Mapping

end Coselect.Alias
