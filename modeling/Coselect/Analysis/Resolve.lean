import Coselect.Analysis.Inquiry
import Coselect.Json.Relaxed
import Coselect.Text.Lowercase

/-! From a specifier to a file. The alias mapping is loaded on first use. A specifier stands
for the first existing file among its alias candidates and then, when it starts with a
point or a slash, for the place it names next to the importing file; each place is tried
as it is, with every suffix, and as a directory with an index file. -/

namespace Coselect.Analysis

def suffixes : List String := [".ts", ".tsx", ".js", ".jsx", ".mjs", ".cjs"]

def indexFiles : List String := ["index.ts", "index.tsx", "index.js", "index.jsx"]

/-- The mapping of a mapping file's text. A text that is no such document gives none;
a base directory that is no text is a failure. -/
def mappingOfText (root text : String) : Except Failure Alias.Mapping :=
  match Json.readRelaxed text with
  | .error _ => .ok (.empty root)
  | .ok doc =>
    match Alias.Mapping.ofDocument root doc with
    | .ok m => .ok m
    | .error .notAnObject => .ok (.empty root)
    | .error f => .error f

/-- The mapping of the file at a path. -/
def readMapping (root path : String) : Work Alias.Mapping := do
  if ← Work.ofInquiry (.isFile path) then
    match ← Work.read? path with
    | none => return .empty root
    | some text => liftExcept (mappingOfText root text)
  else return .empty root
where
  liftExcept (e : Except Failure Alias.Mapping) : Work Alias.Mapping := ExceptT.mk (pure e)

/-- The shared mapping, loaded first if there is none. -/
def loadAliases (root mappingFile : String) : Work Alias.Mapping := do
  match (← Work.ofInquiry .caches).aliases with
  | some m => return m
  | none =>
    let m ← readMapping root (Path.combine root mappingFile)
    let _ ← Work.ofInquiry (.swap fun c => { c with aliases := some m })
    return m

def hasKnownSuffix (path : String) : Bool := suffixes.contains (Text.lower (Path.suffix path))

/-- The files a place may stand for. -/
def probes (place : String) : List String :=
  (if hasKnownSuffix place then [place] else []) ++ suffixes.map (place ++ ·) ++
    indexFiles.map (Path.combine place)

def findFile (place : String) : Inquiry (Option String) := Inquiry.firstFile (probes place)

/-- The first file that one of some places stands for. -/
def findAmong : List String → Inquiry (Option String)
  | [] => pure none
  | place :: places => do
    match ← findFile place with
    | some path => return some path
    | none => findAmong places

def isRelative (specifier : String) : Bool :=
  Text.startsWith "." specifier || Text.startsWith "/" specifier

/-- The places a specifier may name, seen from an importing file. -/
def places (m : Alias.Mapping) (specifier importer : String) : List String :=
  m.candidates specifier ++
    if isRelative specifier then
      [Path.normalize (Path.combine (Path.directory (Path.normalize importer)) specifier)]
    else []

/-- The file a specifier leads to. Without one it is external, missing, or cannot be told
because the mapping fails to load. -/
def resolve (root mappingFile specifier importer : String) : Inquiry (Option String) := do
  if (← Inquiry.caches).isExternal specifier then return none
  else match ← (loadAliases root mappingFile).run with
    | .error _ => return none
    | .ok m => findAmong (places m specifier importer)

end Coselect.Analysis
