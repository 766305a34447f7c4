import Coselect.Imports.Registry
import Coselect.Settings.Environment

/-! The workspace an analyzer works in. -/

namespace Coselect.Analysis

/-- The root directory, the mapping file, the suffixes that are scanned, whether the user's
own excludes file counts, and where it is: a setting, and the environment in which it is read. -/
structure Workspace where
  root : String
  mappingFile : String := "tsconfig.json"
  registry : Imports.Registry := .ofSuffixes []
  globalExcludes : Bool := true
  excludesSetting : String := ""
  environment : Settings.Environment := {}
  maxNodes : Nat := 2000

namespace Workspace

/-- The workspace at a directory. -/
def ofRoot (root : String) : Workspace := { root := Path.normalize root }

/-- The path from the root; a path outside keeps its way from the file system's root. -/
def relativePath (w : Workspace) (path : String) : String :=
  let path := Path.normalize path
  if path = w.root then ""
  else if Text.startsWith (w.root ++ "/") path then Path.relative path w.root
  else String.ofList (path.toList.dropWhile (· == '/'))

end Workspace

/-- Directories that package managers fill. -/
def packageDirectories : List String := ["node_modules", "bower_components", "jspm_packages"]

def isExternallyManaged (path : String) : Bool :=
  (Text.split '/' (Path.normalize path)).any packageDirectories.contains

end Coselect.Analysis
