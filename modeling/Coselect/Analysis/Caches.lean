import Coselect.Alias.Mapping
import Coselect.Disk.Query
import Coselect.Ignore.Rule
import Coselect.Imports.Cache

/-! What the analyses of one workspace share: the alias mapping, the rules of the ignore
files, the rules of user patterns, and the imports of files. -/

namespace Coselect.Analysis

open Disk

/-- How many lists of user patterns are kept. -/
def maxPatternLists : Nat := 64

structure Caches where
  aliases : Option Alias.Mapping := none
  rules : Option Ignore.Rules := none
  patternRules : Table (List String) Ignore.Rules := .empty
  imports : Imports.Cache Stamp

namespace Caches

def ofSize (size : Int) : Caches := { imports := .ofSize size }

def clearAliases (c : Caches) : Caches := { c with aliases := none }

def clearRules (c : Caches) : Caches := { c with rules := none, patternRules := .empty }

/-- Forgets everything that was read from the disk. -/
def reset (c : Caches) : Caches :=
  { c.clearAliases.clearRules with imports := c.imports.clear }

/-- Makes room for one more list of user patterns. -/
def makeRoom (c : Caches) : Caches :=
  if c.patternRules.size < maxPatternLists then c
  else { c with patternRules := c.patternRules.drop 1 }

def stats (c : Caches) : Json :=
  .obj [("import_cache", c.imports.stats), ("aliases", .option (fun m => .nat m.size) c.aliases)]

/-- Whether a specifier names a package, as far as the aliases loaded so far tell. -/
def isExternal (c : Caches) (specifier : String) : Bool :=
  !Text.startsWith "." specifier && !Text.startsWith "/" specifier &&
    !(c.aliases.any (·.takes specifier))

end Caches

end Coselect.Analysis
