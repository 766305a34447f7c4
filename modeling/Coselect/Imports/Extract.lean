import Coselect.Imports.Comment
import Coselect.Imports.Scan
import Coselect.Imports.Statement
import Coselect.Text.Lines

/-! The statements of a module's text, in the order of their offsets: at one offset a
static import comes first, then a re-export, a required module and a dynamic import. A
malformed clause drops its statement, and so does a template with an interpolation. -/

namespace Coselect.Imports

open Text

def statementAt (cs : List Char) (kind : Kind) (offset : Nat) (source : List Char)
    (specifiers : List String) : Statement :=
  { source := String.ofList source, kind, specifiers, offset
    line := lineOfPosition cs offset
    one_le_line := by simp [lineOfPosition] }

def staticStatement? (cs : List Char) (found : Nat × Sourced) : Option Statement :=
  (clauseNames? found.2.1).map (statementAt cs .staticImport found.1 found.2.2)

def reexportStatement? (cs : List Char) (found : Nat × Sourced) : Option Statement :=
  if found.2.1 = ['*'] then some (statementAt cs .staticImport found.1 found.2.2 ["*"])
  else staticStatement? cs found

def isInterpolated (source : List Char) : Bool := containsPart ['$', '\x7b'] source

def extractChars (cs : List Char) : List Statement :=
  let code := blankComments cs
  let statics := (scan staticImport? code).filterMap (staticStatement? code)
  let reexports := (scan reexport? code).filterMap (reexportStatement? code)
  let requires := (scan require? code).map fun (n, s) => statementAt code .dynamicRequire n s []
  let dynamics := ((scan dynamicImport? code).filter fun f => !isInterpolated f.2).map fun (n, s) =>
    statementAt code .dynamicImport n s []
  (statics ++ reexports ++ requires ++ dynamics).mergeSort fun a b => decide (a.offset ≤ b.offset)

def extract (text : String) : List Statement := extractChars text.toList

end Coselect.Imports
