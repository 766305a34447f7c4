import Coselect.Analysis.Exclusion
import Coselect.Analysis.TestFile

/-! Finding the test files of a file: the conventional places that exist, and the files that
the user's patterns match. A pattern is followed segment by segment; `**` stands for a
directory and what lies at most eight levels below it, packages and version control left
out. -/

namespace Coselect.Analysis

def maxDescent : Nat := 8

def hasWildcard (s : String) : Bool := s.toList.any fun c => c == '*' || c == '?' || c == '['

def isSkipped (name : String) : Bool :=
  packageDirectories.contains name || versionControl.contains name

/-- The paths in a list for which a question is answered with yes. -/
def keep (q : String → Inquiry Bool) : List String → Inquiry (List String)
  | [] => pure []
  | p :: ps => do
    if ← q p then return p :: (← keep q ps) else keep q ps

/-- Results for all paths of a list, in its order. -/
def gather (f : String → Inquiry (List String)) : List String → Inquiry (List String)
  | [] => pure []
  | p :: ps => do return (← f p) ++ (← gather f ps)

/-- The directories right below one. -/
def subdirectories (directory : String) : Inquiry (List String) := do
  let names ← Inquiry.names directory
  keep Inquiry.isDirectory ((names.filter (!isSkipped ·)).map (Path.combine directory))

/-- The directories some levels below others, level by level. -/
def descend : Nat → List String → Inquiry (List String)
  | 0, _ => pure []
  | n + 1, level => do
    let next ← gather subdirectories level
    if next.isEmpty then return [] else return next ++ (← descend n next)

def descendants (directory : String) : Inquiry (List String) := do
  return directory :: (← descend maxDescent [directory])

/-- The names in a directory that a segment matches. -/
def matchingNames (items : List Glob.Item) (directory : String) : Inquiry (List String) := do
  let names ← Inquiry.names directory
  return (names.filter (Glob.matchName items)).map (Path.combine directory)

/-- The paths that one segment leads to from some directories. -/
def followSegment (segment : String) (bases : List String) : Work (List String) :=
  if segment = "**" then Work.ofInquiry (gather descendants bases)
  else if hasWildcard segment then do
    let items ← ofRules (Glob.compile segment)
    Work.ofInquiry (gather (matchingNames items) bases)
  else pure (bases.map (Path.combine · segment))

/-- The paths that some segments lead to; all but the last lead to directories. -/
def followSegments : List String → List String → Work (List String)
  | [], bases => pure bases
  | [segment], bases => followSegment segment bases
  | segment :: rest, bases => do
    let bases ← Work.ofInquiry (keep Inquiry.isDirectory (← followSegment segment bases))
    if bases.isEmpty then return [] else followSegments rest bases

/-- The files that an absolute pattern matches. -/
def globFiles (pattern : String) : Work (List String) := do
  let pattern := Path.normalize pattern
  if hasWildcard pattern then
    let paths ← followSegments ((Text.split '/' pattern).drop 1) ["/"]
    Work.ofInquiry (keep Inquiry.isFile (Text.sortedSet paths))
  else Work.ofInquiry (keep Inquiry.isFile [pattern])

/-- The files that the patterns of a user match, patterns too costly to match left out. -/
def patternTests (root path : String) : List String → Work (List String)
  | [] => pure []
  | pattern :: rest => do
    if (Glob.excess? pattern.toList).isSome then patternTests root path rest
    else
      let found ← globFiles (expandTestPattern root pattern path)
      return found.filter (· ≠ path) ++ (← patternTests root path rest)

/-- The test files of a file that is no test file itself. -/
def locateTests (root path : String) (suffixes : List String) (patterns : Settings.Texts) :
    Work (List String) := do
  let path := Path.normalize path
  if isTestFile path then return []
  let usual ← Work.ofInquiry (keep Inquiry.isFile (conventionalTests root path suffixes))
  let others ← patternTests root path patterns.items
  complete patterns
  return (usual ++ others).eraseDups

end Coselect.Analysis
