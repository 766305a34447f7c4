import Coselect.Imports.Registry
import Coselect.Settings.Input

/-! The options of an analysis: as a request or the environment gives them, and as an
analysis may follow them. A configuration made without a check may hold values of any
type. It gives a policy when the depth is a number in range and the suffixes are texts with
their points; flags count by their truth, and of other patterns the analysis finds out. Where texts are wanted
one after another, a list gives its items, a text its characters and an object the names of
its fields; at an item that is no text, or a value that gives nothing at all, they end in a
failure. -/

namespace Coselect.Settings

structure Texts where
  items : List String := []
  failure : Option Failure := none

namespace Texts

def isEmpty (t : Texts) : Bool := t.items.isEmpty && t.failure.isNone

def ofItems (refuse : Json → Failure) : List Json → Texts
  | [] => {}
  | .str s :: rest =>
    let t := ofItems refuse rest
    { t with items := s :: t.items }
  | v :: _ => { failure := some (refuse v) }

/-- The texts of a value; `refuse` names the failure at an item that is none. -/
def ofJson (refuse : Json → Failure) : Json → Texts
  | .arr vs => ofItems refuse vs
  | .str s => { items := s.toList.map fun c => String.ofList [c] }
  | .obj fs => { items := fs.map Prod.fst }
  | v => { failure := some (.wrongType (v.typeText ++ " object is not iterable")) }

end Texts

/-! ### Options -/

def minDepth : Int := 0
def maxDepth : Int := 20

def readDepth (v : Json) : Checked Json := Json.int <$> (readInt v).also (between minDepth maxDepth)

/-- The options as they were given; only those that were read are sure to have their types. -/
structure Config where
  enabled : Json := .bool false
  maxDepth : Json := .int 5
  unlimitedDepth : Json := .bool false
  includeTests : Json := .bool true
  testFilePatterns : Json := .arr []
  exclusionPatterns : Json := .arr []
  excludeThirdParty : Json := .bool true
  respectIgnoreFile : Json := .bool true
  sourceExtensions : Json := .strings Imports.defaultSuffixes

namespace Config

def fields (c : Config) : Fields :=
  [("enabled", c.enabled), ("max_depth", c.maxDepth), ("unlimited_depth", c.unlimitedDepth),
    ("include_tests", c.includeTests), ("test_file_patterns", c.testFilePatterns),
    ("exclusion_patterns", c.exclusionPatterns), ("exclude_third_party", c.excludeThirdParty),
    ("respect_ignore_file", c.respectIgnoreFile), ("source_extensions", c.sourceExtensions)]

/-- The depth limit in force, null when there is none. -/
def effectiveMaxDepth (c : Config) : Json :=
  if c.unlimitedDepth.isTruthy then .null else c.maxDepth

def toJson (c : Config) : Json :=
  .obj (c.fields ++ [("effective_max_depth", c.effectiveMaxDepth)])

def dotted (suffix : String) : String :=
  if Text.startsWith "." suffix then suffix else "." ++ suffix

/-- A field that is a flag. -/
def flag (fs : Fields) (name : String) (default : Json) : Checked Json :=
  reading fs name (fun v => Json.bool <$> readFlag v) default

/-- A field that is a list of texts. -/
def texts (fs : Fields) (name : String) (change : String → String) (default : Json) :
    Checked Json :=
  reading fs name (fun v => (Json.strings ∘ List.map change) <$> readTexts v) default

def read (fs : Fields) : Checked Config :=
  let usual : Config := {}
  Config.mk
    <$> flag fs "enabled" usual.enabled
    <*> reading fs "max_depth" readDepth usual.maxDepth
    <*> flag fs "unlimited_depth" usual.unlimitedDepth
    <*> flag fs "include_tests" usual.includeTests
    <*> texts fs "test_file_patterns" id usual.testFilePatterns
    <*> texts fs "exclusion_patterns" id usual.exclusionPatterns
    <*> flag fs "exclude_third_party" usual.excludeThirdParty
    <*> flag fs "respect_ignore_file" usual.respectIgnoreFile
    <*> texts fs "source_extensions" dotted usual.sourceExtensions

/-- The configuration with the given values as they are, unchecked. -/
def unchecked (fs : Fields) : Config :=
  let usual : Config := {}
  let value (name : String) (default : Json) : Json := (fs.lookup name).getD default
  { enabled := value "enabled" usual.enabled
    maxDepth := value "max_depth" usual.maxDepth
    unlimitedDepth := value "unlimited_depth" usual.unlimitedDepth
    includeTests := value "include_tests" usual.includeTests
    testFilePatterns := value "test_file_patterns" usual.testFilePatterns
    exclusionPatterns := value "exclusion_patterns" usual.exclusionPatterns
    excludeThirdParty := value "exclude_third_party" usual.excludeThirdParty
    respectIgnoreFile := value "respect_ignore_file" usual.respectIgnoreFile
    sourceExtensions := value "source_extensions" usual.sourceExtensions }

end Config

/-- What an analysis leaves out. -/
structure Exclusions where
  thirdParty : Bool := true
  ignoreFile : Bool := true
  patterns : Texts := {}

/-- Options that an analysis can follow. -/
structure Policy where
  maxDepth : Option Nat
  includeTests : Bool
  testFilePatterns : Texts
  exclusions : Exclusions
  sourceExtensions : List String

namespace Config

def invalid (option : String) (value : Json) (reason : String) : Fault :=
  .invalidOption (.str option) value (.str reason)

/-- The depth as a number in range. -/
def depth (c : Config) : Except Fault Nat :=
  match c.maxDepth with
  | .int i =>
    if minDepth ≤ i ∧ i ≤ Settings.maxDepth then .ok i.toNat
    else .error (invalid "max_depth" c.maxDepth "must be between 0 and 20")
  | v => .error (invalid "max_depth" v "must be an integer")

/-- An item that lacks what every text offers. -/
def lacking (operation : String) (v : Json) : Failure :=
  .notOffered (v.typeText ++ " object has no attribute " ++ Text.quoted operation)

/-- An item that is no pattern to look for files by. -/
def noPattern : Json → Failure
  | .arr _ => .wrongType ("expected string or bytes-like object, got " ++ Text.quoted "list")
  | .obj _ => .wrongType ("expected string or bytes-like object, got " ++ Text.quoted "dict")
  | v => .wrongType ("object of type " ++ v.typeText ++ " has no len()")

/-- The texts of a value that counts as set; another gives none. -/
def textsOf (refuse : Json → Failure) (v : Json) : Texts :=
  if v.isTruthy then .ofJson refuse v else {}

/-- A list or object within a list, by which no rules can be kept. -/
def nested? : Json → Option Json
  | .arr vs => vs.find? fun
    | .arr _ | .obj _ => true
    | _ => false
  | _ => none

def exclusions (c : Config) : Exclusions :=
  { thirdParty := c.excludeThirdParty.isTruthy
    ignoreFile := c.respectIgnoreFile.isTruthy
    patterns := match nested? c.exclusionPatterns with
      | some v => { failure := some (.wrongType ("unhashable type: " ++ v.typeText)) }
      | none => textsOf (lacking "strip") c.exclusionPatterns }

/-- The suffixes whose files are scanned, whether they have their points or not. -/
def suffixes (c : Config) : Except Failure (List String) :=
  let t := Texts.ofJson (lacking "lower") c.sourceExtensions
  match t.failure with
  | some f => .error f
  | none => .ok t.items

/-- The suffixes as far as they are texts. -/
def suffixTexts (c : Config) : List String :=
  (Texts.ofJson (lacking "lower") c.sourceExtensions).items

/-- The first suffix without its point. -/
def undotted? (c : Config) : Option String :=
  c.suffixTexts.find? (!Text.startsWith "." ·)

def policy (c : Config) : Except Failure Policy :=
  match c.depth with
  | .error f => .error (.fault f)
  | .ok depth =>
    match c.undotted?, c.suffixes with
    | some suffix, _ => .error
        (.fault (invalid "source_extensions" (.str suffix) "must start with a dot"))
    | none, .error f => .error f
    | none, .ok suffixes => .ok
      { maxDepth := if c.unlimitedDepth.isTruthy then none else some depth
        includeTests := c.includeTests.isTruthy
        testFilePatterns := textsOf noPattern c.testFilePatterns
        exclusions := c.exclusions
        sourceExtensions := suffixes }

end Config

/-- Options that a request sets on top of a configuration, each one optional. -/
def readOverrides (fs : Fields) : Checked Fields :=
  let flag (v : Json) : Checked Json := Json.bool <$> readFlag v
  let texts (v : Json) : Checked Json := Json.strings <$> readTexts v
  let readers : List (String × (Json → Checked Json)) :=
    [("enabled", flag), ("max_depth", readDepth), ("unlimited_depth", flag), ("include_tests", flag),
      ("test_file_patterns", texts), ("exclusion_patterns", texts), ("exclude_third_party", flag),
      ("respect_ignore_file", flag), ("source_extensions", texts)]
  readers.foldr (fun (name, read) rest =>
    match fs.lookup name with
    | none | some .null => rest
    | some v => .seq (.map (fun v rest => (name, v) :: rest) ((read v).under (.field name))) rest)
    (.ok [])

/-- A configuration with some options set anew; without any it stays as it is. -/
def Config.withOverrides (base : Config) (overrides : Fields) : Checked Config :=
  if overrides.isEmpty then .ok base
  else Config.read (base.fields.map fun (name, v) => (name, (overrides.lookup name).getD v))

end Coselect.Settings
