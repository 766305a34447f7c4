import Coselect.Analysis.Workspace

/-! Naming conventions of test files. The tests of `dir/name.ext` stand next to it under a
marked name, in a directory of tests below, or under a marked name at the same place of a
parallel tree, where a leading `src` is left out. -/

namespace Coselect.Analysis

def testMarkers : List String := [".test", ".spec"]
def testDirectory : String := "__tests__"
def testTrees : List String := ["test", "tests"]

def isTestFile (path : String) : Bool :=
  let stem := (Path.cutSuffix (Path.baseName path)).1
  testMarkers.any (Text.endsWith · stem) || (Text.split '/' path).contains testDirectory

/-- A name under each marker with a suffix. -/
def marked (name suffix : String) : List String := testMarkers.map fun m => name ++ m ++ suffix

/-- The directories of the parallel trees that answer to a directory of the workspace. -/
def parallelDirectories (root directory : String) : List String :=
  if directory ≠ root ∧ !Text.startsWith (root ++ "/") directory then []
  else
    let way := Path.relative directory root
    let parts := if way = "." then [] else Text.split '/' way
    if parts.head?.any testTrees.contains then []
    else
      let parts := if parts.head? = some "src" then parts.drop 1 else parts
      testTrees.map fun tree => Path.combineAll root (tree :: parts)

/-- The places where the conventions put the tests of a file, each once and without the file
itself. -/
def conventionalTests (root path : String) (suffixes : List String) : List String :=
  let root := Path.normalize root
  let path := Path.normalize path
  let directory := Path.directory path
  let name := (Path.cutSuffix (Path.baseName path)).1
  let beside := suffixes.flatMap fun s => (marked name s).map (Path.combine directory)
  let below := suffixes.flatMap fun s =>
    ((name ++ s) :: marked name s).map fun n => Path.combineAll directory [testDirectory, n]
  let parallel := (parallelDirectories root directory).flatMap fun d =>
    suffixes.flatMap fun s => (marked name s).map (Path.combine d)
  ((beside ++ below ++ parallel).filter (· ≠ path)).eraseDups

/-- A user pattern for a file: the name, suffix and directory of the file are filled in, and
the pattern starts at the root after a leading slash, else at the file's directory. -/
def expandTestPattern (root pattern path : String) : String :=
  let root := Path.normalize root
  let path := Path.normalize path
  let directory := Path.directory path
  let (name, suffix) := Path.cutSuffix (Path.baseName path)
  let way := Path.relative directory root
  let suffix := String.ofList (suffix.toList.dropWhile (· == '.'))
  let text := Text.replace "\x7bdir\x7d" (if way = "." then "" else way)
    (Text.replace "\x7bext\x7d" suffix (Text.replace "\x7bname\x7d" name pattern))
  if Text.startsWith "/" text then
    Path.combine root (String.ofList (text.toList.dropWhile (· == '/')))
  else Path.combine directory text

end Coselect.Analysis
