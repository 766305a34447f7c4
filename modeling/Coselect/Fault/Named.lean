import Coselect.Fault

/-! Faults by the names of their kinds, from arguments that have names as well. Every argument
of a kind must be there unless it has a default, and there may be no other. -/

namespace Coselect.Fault

/-- How the faults of a kind are made: the arguments that must be there, those that may, and
what becomes of their values, an argument that is not there being null. -/
structure Maker where
  required : List String
  optional : List String
  make : (String → Json) → Fault

def ofFamily (f : Family) : Maker :=
  ⟨["message"], ["details", "cause"], fun v => .other f (v "message") (v "details")⟩

def makers : List (String × Maker) :=
  [(Family.general.name, ofFamily .general),
    (Family.configuration.name, ofFamily .configuration),
    (Family.analysis.name, ofFamily .analysis),
    (Family.pattern.name, ofFamily .pattern),
    ("InvalidConfigurationError", ⟨["option", "value", "reason"], [],
      fun v => .invalidOption (v "option") (v "value") (v "reason")⟩),
    ("SmartSelectDisabledError", ⟨[], [], fun _ => .disabled⟩),
    ("ParseFailure", ⟨["line", "fragment"], ["file_path"],
      fun v => .malformedImport (v "line") (v "fragment") (v "file_path")⟩),
    ("ResolutionFailure", ⟨["specifier", "importing_file"], ["cause"],
      fun v => .unresolved (v "specifier") (v "importing_file")⟩),
    ("UnreadableFileError", ⟨["file_path"], ["cause"], fun v => .unreadable (v "file_path")⟩),
    ("GraphTooLargeError", ⟨["limit"], [], fun v => .graphTooLarge (v "limit")⟩),
    ("AnalysisTimeoutError", ⟨["timeout_seconds"], [], fun v => .timedOut (v "timeout_seconds")⟩),
    ("AnalysisCancelledError", ⟨["root"], [], fun v => .cancelled (v "root")⟩),
    ("UnsafePatternError", ⟨["pattern", "reason"], [],
      fun v => .costlyPattern (v "pattern") (v "reason")⟩)]

/-- The fault of a kind with some arguments. -/
def named (kind : String) (args : List (String × Json)) : Except Failure Fault :=
  match makers.lookup kind with
  | none => .error (.notOffered ("no fault has the name " ++ kind))
  | some m =>
    match m.required.find? fun n => !args.any fun a => a.1 == n,
        args.find? fun a => !(m.required ++ m.optional).contains a.1 with
    | some n, _ => .error (.wrongType ("missing argument " ++ n))
    | none, some a => .error (.wrongType ("unexpected argument " ++ a.1))
    | none, none => .ok (m.make fun n => (args.lookup n).getD .null)

end Coselect.Fault
