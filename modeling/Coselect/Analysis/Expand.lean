import Coselect.Analysis.Locate
import Coselect.Analysis.Resolve
import Coselect.Imports.Extract

/-! Expansion of one file: its imports, the files they lead to, what is left out of them,
and its test files. A fault empties what was found and stays on the node as its error. -/

namespace Coselect.Analysis

open Disk Coselect.Graph Imports

/-- Whether a file is scanned: its suffix must be among those asked for and in the registry. -/
def isScanned (w : Workspace) (suffixes : List String) (path : String) : Bool :=
  (suffixes.map Text.lower).contains (Text.lower (Path.suffix path)) && w.registry.supports path

/-- The statements of a text, kept under the file's stamp if it has one. -/
def keepStatements (path : String) (stamp : Option Stamp) (text : String) :
    Inquiry (List Statement) :=
  let statements := extract text
  match stamp with
  | none => pure statements
  | some t => do
    let _ ← Inquiry.swap fun c => { c with imports := c.imports.store path t statements }
    return statements

/-- The statements stored for a file with a stamp. -/
def lookUp (path : String) (stamp : Stamp) : Inquiry (Option (List Statement)) := do
  let before ← Inquiry.swap fun c => { c with imports := c.imports.afterLookup path stamp }
  return before.imports.find? path stamp

/-- The statements of a file that is scanned, from the cache while its stamp is the same. -/
def importsOf (w : Workspace) (suffixes : List String) (path : String) :
    Work (List Statement) := do
  if !isScanned w suffixes path then return []
  let stamp ← Work.ofInquiry (.stamp path)
  let cached ← match stamp with
    | none => pure none
    | some t => Work.ofInquiry (lookUp path t)
  match cached with
  | some statements => return statements
  | none =>
    match ← Work.read? path with
    | none => Work.fail (.fault (.unreadable (.str path)))
    | some text => Work.ofInquiry (keepStatements path stamp text)

/-- What becomes of a specifier: nothing, a file left out, or a file to go on with. -/
inductive Target
  | nowhere
  | leftOut (path : String) (reason : ExcludeReason)
  | file (path : String)
  deriving DecidableEq, Repr

def targetOf (w : Workspace) (x : Settings.Exclusions) (importer specifier : String) : Work Target := do
  match ← Work.ofInquiry (resolve w.root w.mappingFile specifier importer) with
  | none => return .nowhere
  | some path =>
    match ← excludeReason w x path with
    | some reason => return .leftOut path reason
    | none => return .file path

/-- The files left out so far, each with the first reason. -/
abbrev LeftOut := Table String ExcludeReason

def LeftOut.note (t : LeftOut) (path : String) (reason : ExcludeReason) : LeftOut :=
  if t.contains path then t else t.insert path reason

/-- How an expansion goes on: with a value, with the failure of a part, or not at all because
the time is over. -/
inductive Progress (α : Type)
  | value (a : α)
  | failed (f : Failure)
  | outOfTime

/-- Runs a part of an expansion within the time. -/
def part (work : Work α) : Inquiry (Progress α) := do
  match ← work.run.withinTime with
  | none => return .outOfTime
  | some (.error f) => return .failed f
  | some (.ok a) => return .value a

/-- The files that some statements lead to, each once, and the files left out. -/
def targets (w : Workspace) (x : Settings.Exclusions) (importer : String) :
    List Statement → List String → LeftOut → Inquiry (Progress (List String) × LeftOut)
  | [], found, out => pure (.value found, out)
  | s :: rest, found, out => do
    match ← part (targetOf w x importer s.source) with
    | .outOfTime => return (.outOfTime, out)
    | .failed f => return (.failed f, out)
    | .value .nowhere => targets w x importer rest found out
    | .value (.leftOut path reason) => targets w x importer rest found (out.note path reason)
    | .value (.file path) =>
      targets w x importer rest (if found.contains path then found else found ++ [path]) out

/-- The test files a node gets. -/
def testsOf (w : Workspace) (p : Settings.Policy) (path : String) : Work (List String) :=
  if p.includeTests then locateTests w.root path p.sourceExtensions p.testFilePatterns else pure []

def failedNode (path : String) (depth : Nat) (f : Failure) : Node :=
  { path, depth, expanded := true, error := some f.message }

/-- The node of a file and the files left out behind it, no node when the time is over. -/
def expand (w : Workspace) (p : Settings.Policy) (path : String) (depth : Nat) (out : LeftOut) :
    Inquiry (Option Node × LeftOut) := do
  match ← part (importsOf w p.sourceExtensions path) with
  | .outOfTime => return (none, out)
  | .failed f => return (some (failedNode path depth f), out)
  | .value statements =>
    match ← targets w p.exclusions path statements [] out with
    | (.outOfTime, out) => return (none, out)
    | (.failed f, out) => return (some (failedNode path depth f), out)
    | (.value found, out) =>
      match ← part (testsOf w p path) with
      | .outOfTime => return (none, out)
      | .failed f => return (some (failedNode path depth f), out)
      | .value tests =>
        return (some { path, depth, expanded := true, rawImports := statements.map (·.source)
                       resolvedImports := found, testFiles := tests }, out)

end Coselect.Analysis
