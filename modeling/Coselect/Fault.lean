import Coselect.Glob.Safety
import Coselect.Json.Writer

/-! The faults callers are told about, each with a message, details and the families it
belongs to, and the wider set of reasons for which an operation gives no answer. -/

namespace Coselect

/-- The families of faults, each below the general one. -/
inductive Family
  | general
  | configuration
  | analysis
  | pattern
  deriving DecidableEq, Repr

def Family.name : Family → String
  | general => "SmartSelectError"
  | configuration => "ConfigurationError"
  | analysis => "AnalysisError"
  | pattern => "PatternError"

/-- What a fault is about is kept as the values it was given. -/
inductive Fault
  /-- A fault of a family without a kind of its own. -/
  | other (family : Family) (message details : Json)
  | invalidOption (option value reason : Json)
  | disabled
  | malformedImport (line fragment path : Json)
  | unresolved (specifier importer : Json)
  | unreadable (path : Json)
  | graphTooLarge (limit : Json)
  | timedOut (seconds : Json)
  | cancelled (root : Json)
  | costlyPattern (pattern reason : Json)

namespace Fault

def family : Fault → Family
  | other f .. => f
  | invalidOption .. | disabled => .configuration
  | malformedImport .. | unresolved .. | unreadable .. | graphTooLarge .. | timedOut ..
  | cancelled .. => .analysis
  | costlyPattern .. => .pattern

/-- The name of a fault's own kind, if it has one below its family. -/
def ownName? : Fault → Option String
  | other .. => none
  | invalidOption .. => some "InvalidConfigurationError"
  | disabled => some "SmartSelectDisabledError"
  | malformedImport .. => some "ParseFailure"
  | unresolved .. => some "ResolutionFailure"
  | unreadable .. => some "UnreadableFileError"
  | graphTooLarge .. => some "GraphTooLargeError"
  | timedOut .. => some "AnalysisTimeoutError"
  | cancelled .. => some "AnalysisCancelledError"
  | costlyPattern .. => some "UnsafePatternError"

/-- The names from a fault's kind up to the general family. -/
def lineage (f : Fault) : List String :=
  f.ownName?.toList ++
    (if f.family = .general then [] else [f.family.name]) ++ [Family.general.name]

def name (f : Fault) : String := f.ownName?.getD f.family.name

def message : Fault → String
  | other _ m _ => m.plain
  | invalidOption o v r =>
    "Invalid value for '" ++ o.plain ++ "': " ++ v.display ++ " (" ++ r.plain ++ ")"
  | disabled => "Smart selection is disabled"
  | malformedImport line _ _ => "Malformed import at line " ++ line.plain
  | unresolved s i => "Could not resolve '" ++ s.plain ++ "' from " ++ i.plain
  | unreadable p => "Could not read " ++ p.plain
  | graphTooLarge n => "Dependency graph exceeded " ++ n.plain ++ " nodes"
  | timedOut s => "Analysis timed out after " ++ s.plain ++ "s"
  | cancelled r => "Analysis of " ++ r.plain ++ " was cancelled"
  | costlyPattern p r => "Rejected pattern '" ++ p.plain ++ "': " ++ r.plain

/-- What a fault says besides its message, an empty object if nothing. -/
def details : Fault → Json
  | other _ _ d => if d.isTruthy then d else .obj []
  | invalidOption o v r => .obj [("option", o), ("value", v), ("reason", r)]
  | disabled => .obj []
  | malformedImport line fragment path =>
    .obj [("file_path", path), ("line", line), ("fragment", fragment)]
  | unresolved s i => .obj [("specifier", s), ("importing_file", i)]
  | unreadable p => .obj [("file_path", p)]
  | graphTooLarge n => .obj [("limit", n)]
  | timedOut s => .obj [("timeout_seconds", s)]
  | cancelled r => .obj [("root", r)]
  | costlyPattern p r => .obj [("pattern", p), ("reason", r)]

/-- The message as it was given. -/
def givenMessage : Fault → Json
  | other _ m _ => m
  | f => .str f.message

/-- What a response shows of a fault; details only when there are some. -/
def toJson (f : Fault) : Json :=
  .obj ([("error", .str f.name), ("message", f.givenMessage)] ++
    if f.details.isTruthy then [("details", f.details)] else [])

/-- The status of the response to a request that meets the fault. -/
def status (f : Fault) : Nat :=
  match f, f.family with
  | disabled, _ => 409
  | _, .configuration | _, .pattern => 400
  | _, _ => 500

def costly (pattern : String) (e : Glob.Excess) : Fault :=
  costlyPattern (.str pattern) (.str e.reason)

end Fault

/-- A step on the way to a value within a document: a field or an index. -/
inductive Location
  | field (name : String)
  | index (i : Nat)
  deriving DecidableEq, Repr

def Location.toJson : Location → Json
  | field n => .str n
  | index i => .nat i

/-- A value that an input check refused, and the rule it broke. -/
structure Refusal where
  rule : String
  location : List Location
  deriving DecidableEq, Repr

def Refusal.under (l : Location) (r : Refusal) : Refusal := { r with location := l :: r.location }

def Refusal.toJson (r : Refusal) : Json :=
  .obj [("type", .str r.rule), ("loc", .arr (r.location.map Location.toJson))]

/-- Why an operation gives no answer. -/
inductive Failure
  | fault (f : Fault)
  /-- An input check refused some values. -/
  | refused (refusals : List Refusal)
  /-- A list or object setting is not JSON. -/
  | settingNotJson
  /-- A class of a pattern is ill formed. -/
  | illFormedPattern (message : String)
  | malformedJson
  /-- A number or a count is out of its range. -/
  | outOfRange (message : String)
  /-- A document has another value where an object is needed. -/
  | notAnObject
  /-- A document has another value where a text is needed. -/
  | notAText
  /-- No encoding has this name. -/
  | unknownEncoding (name : String)
  /-- The target of a request names no path. -/
  | noTarget
  /-- A value has not the type that its use needs. -/
  | wrongType (message : String)
  /-- A value is asked for something that its type does not offer. -/
  | notOffered (message : String)
  /-- A value is looked up under a key that is not there. -/
  | unknownKey
  /-- Room was to be made in an empty cache. -/
  | nothingToEvict

/-- What a value names, or the default if it is null; `what` says what there is to choose. -/
def choose (what : String) (named? : String → Option α) (default : α) (v : Json) :
    Except Failure α :=
  let chosen := match v with
    | .null => some default
    | .str s => named? s
    | _ => none
  match chosen with
  | some a => .ok a
  | none => .error (.outOfRange (v.display ++ " is not a valid " ++ what))

/-- The text of a failure. -/
def Failure.message : Failure → String
  | fault f => f.message
  | unknownEncoding name => "unknown encoding: " ++ name
  | illFormedPattern m | outOfRange m | wrongType m | notOffered m => m
  | _ => ""

end Coselect
