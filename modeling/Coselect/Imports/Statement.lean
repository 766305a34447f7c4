import Coselect.Json.Basic

/-! One place in a module's text that names another module. -/

namespace Coselect.Imports

inductive Kind
  | staticImport
  | dynamicRequire
  | dynamicImport
  deriving DecidableEq, Repr

def Kind.name : Kind → String
  | staticImport => "static-import"
  | dynamicRequire => "dynamic-require"
  | dynamicImport => "dynamic-import"

def Kind.named? (s : String) : Option Kind :=
  [staticImport, dynamicRequire, dynamicImport].find? fun k => k.name == s

/-- The specifier as written, the form it stands in, the names it binds, and the line
and the offset of its first character. -/
structure Statement where
  source : String
  kind : Kind
  specifiers : List String := []
  line : Nat := 1
  offset : Int := 0
  one_le_line : 1 ≤ line := by omega

/-- The statement on a line, unless the line is less than 1. -/
def Statement.onLine? (source : String) (kind : Kind) (specifiers : List String) (line : Int)
    (offset : Int) : Option Statement :=
  if h : 1 ≤ line then some ⟨source, kind, specifiers, line.toNat, offset, by omega⟩ else none

def Statement.toJson (s : Statement) : Json :=
  .obj [("source", .str s.source), ("kind", .str s.kind.name),
    ("specifiers", .strings s.specifiers), ("line", .nat s.line), ("offset", .int s.offset)]

end Coselect.Imports
