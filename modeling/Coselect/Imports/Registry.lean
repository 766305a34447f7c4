import Coselect.Path
import Coselect.Text.Lowercase

/-! The file suffixes whose files are scanned for imports, in lowercase and in the order of
their registration. -/

namespace Coselect.Imports

def defaultSuffixes : List String := [".ts", ".tsx", ".js", ".jsx", ".mjs", ".cjs"]

structure Registry where
  suffixes : List String

namespace Registry

def register (r : Registry) (suffix : String) : Registry :=
  let s := Text.lower suffix
  if r.suffixes.contains s then r else ⟨r.suffixes ++ [s]⟩

/-- The registry of some suffixes, of the default ones when there are none. -/
def ofSuffixes (suffixes : List String) : Registry :=
  (if suffixes.isEmpty then defaultSuffixes else suffixes).foldl register ⟨[]⟩

def supports (r : Registry) (path : String) : Bool :=
  r.suffixes.contains (Text.lower (Path.suffix path))

end Registry

end Coselect.Imports
