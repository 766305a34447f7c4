import Coselect.Settings.Config
import Coselect.Text.Lowercase

/-! The environment of a process, and settings from its variables, whose names count in any case
there. A list or an object is given as JSON, and null counts as not given. -/

namespace Coselect.Settings

/-- Variables in the order in which they were set, and what the user database says of home
directories, which are absolute paths: of one's own and of the users by name. -/
structure Environment where
  vars : List (String × String) := []
  ownHome : String := "/"
  homes : List (String × String) := []

namespace Environment

/-- The value last set under a name, in any case. -/
def find? (env : Environment) (name : String) : Option String :=
  (env.vars.reverse.find? fun (n, _) => Text.lower n == name).map Prod.snd

/-- The value last set under exactly this name. -/
def get? (env : Environment) (name : String) : Option String :=
  (env.vars.reverse.find? fun (n, _) => n == name).map Prod.snd

end Environment

/-- How a variable gives the value of a field. -/
inductive Form
  | plain
  | json
  deriving DecidableEq, Repr

/-- The fields that some variables give, whose names start alike. -/
def environmentFields (env : Environment) (start : String) :
    List (String × Form) → Except Failure Fields
  | [] => .ok []
  | (name, form) :: rest =>
    match env.find? (start ++ name), form with
    | none, _ => environmentFields env start rest
    | some text, .plain => (environmentFields env start rest).map ((name, .str text) :: ·)
    | some text, .json =>
      match Json.read text with
      | .error _ => .error .settingNotJson
      | .ok .null => environmentFields env start rest
      | .ok v => (environmentFields env start rest).map ((name, v) :: ·)

def configForms : List (String × Form) :=
  [("enabled", .plain), ("max_depth", .plain), ("unlimited_depth", .plain),
    ("include_tests", .plain), ("test_file_patterns", .json), ("exclusion_patterns", .json),
    ("exclude_third_party", .plain), ("respect_ignore_file", .plain), ("source_extensions", .json)]

def Config.names : List String := configForms.map Prod.fst

/-- The configuration of some given fields, which win over the environment. -/
def Config.load (env : Environment) (given : Fields) : Except Failure Config :=
  match environmentFields env "smart_select_" configForms with
  | .error e => .error e
  | .ok fs => (Config.read (firstNamed Config.names given ++ fs)).toFailure

end Coselect.Settings
