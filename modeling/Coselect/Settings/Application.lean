import Coselect.Settings.Environment

/-! The settings of the application in five sections. A section comes from the variables of
its own and from an object given under its name, which wins. -/

namespace Coselect.Settings

structure AppSettings where
  name : String := "smart-select"
  env : String := "development"
  debug : Bool := true
  logLevel : String := "DEBUG"

structure ApiSettings where
  host : String := "127.0.0.1"
  port : Int := 8000
  workers : Int := 1
  reload : Bool := false

structure Performance where
  analysisMaxNodes : Int := 2000
  analysisTimeoutSeconds : Float := 30.0
  progressIntervalSeconds : Float := 1.0
  importCacheMaxSize : Int := 2000

structure WorkspaceSettings where
  root : String := "/"
  pathMappingFile : String := "tsconfig.json"
  useGlobalExcludes : Bool := true

structure Application where
  app : AppSettings
  api : ApiSettings
  analysis : Config
  performance : Performance
  workspace : WorkspaceSettings

def environments : List String := ["development", "staging", "production"]
def logLevels : List String := ["DEBUG", "INFO", "WARNING", "ERROR", "CRITICAL"]

def plainForms (names : List String) : List (String × Form) := names.map fun n => (n, .plain)

/-- A section that knows exactly the named fields. -/
def ofNamed (env : Environment) (start : String) (names : List String)
    (read : Fields → Checked α) (given : Fields) : Except Failure α :=
  match environmentFields env start (plainForms names) with
  | .error e => .error e
  | .ok fs =>
    let given := firstNamed names given
    (only names given (read (given ++ fs))).toFailure

def AppSettings.names : List String := ["name", "env", "debug", "log_level"]

def AppSettings.load (env : Environment) : Fields → Except Failure AppSettings :=
  ofNamed env "app_" AppSettings.names fun fs =>
    AppSettings.mk
      <$> reading fs "name" readText "smart-select"
      <*> reading fs "env" (readChoice environments) "development"
      <*> reading fs "debug" readFlag true
      <*> reading fs "log_level" (readChoice logLevels) "DEBUG"

def ApiSettings.names : List String := ["host", "port", "workers", "reload"]

def ApiSettings.load (env : Environment) : Fields → Except Failure ApiSettings :=
  ofNamed env "api_" ApiSettings.names fun fs =>
    ApiSettings.mk
      <$> reading fs "host" readText "127.0.0.1"
      <*> reading fs "port" readInt 8000
      <*> reading fs "workers" readInt 1
      <*> reading fs "reload" readFlag false

def Performance.names : List String :=
  ["analysis_max_nodes", "analysis_timeout_seconds", "progress_interval_seconds",
    "import_cache_max_size"]

def Performance.load (env : Environment) : Fields → Except Failure Performance :=
  ofNamed env "" Performance.names fun fs =>
    Performance.mk
      <$> reading fs "analysis_max_nodes" (fun v => (readInt v).also (atLeast 1)) 2000
      <*> reading fs "analysis_timeout_seconds"
        (fun v => (readFloat v).also (positiveUpTo 600.0)) 30.0
      <*> reading fs "progress_interval_seconds" (fun v => (readFloat v).also positive) 1.0
      <*> reading fs "import_cache_max_size" (fun v => (readInt v).also (atLeast 10)) 2000

/-- The text of a path: single slashes, no `.` components, `.` when nothing is left. -/
def pathText (path : String) : String :=
  let parts := (Path.components path).filter (· ≠ ".")
  let lead := if Text.startsWith "/" path then Path.leadingSlashes path else ""
  if lead = "" ∧ parts.isEmpty then "." else lead ++ Text.join "/" parts

def readPath : Json → Checked String
  | .str s => .ok (pathText s)
  | _ => .refuse "path_type"

def WorkspaceSettings.names : List String := ["root", "path_mapping_file", "use_global_excludes"]

def WorkspaceSettings.load (env : Environment) : Fields → Except Failure WorkspaceSettings :=
  ofNamed env "workspace_" WorkspaceSettings.names fun fs =>
    WorkspaceSettings.mk
      <$> reading fs "root" readPath "/"
      <*> reading fs "path_mapping_file" readText "tsconfig.json"
      <*> reading fs "use_global_excludes" readFlag true

/-- A section given as an object, or made from its variables alone. A failure of one that is
not given ends the reading at once; what speaks against one that is given is kept. -/
def given (sections : Fields) (name : String) (names : List String)
    (load : Fields → Except Failure α) : Except Failure (Checked α) :=
  match sections.lookup name with
  | none => (load []).map .ok
  | some (.obj fs) =>
    match load (named names fs) with
    | .ok a => .ok (.ok a)
    | .error (.refused rs) => .ok (.error (rs.map (Refusal.under (.field name))))
    | .error _ => .ok (.error [⟨"value_error", [.field name]⟩])
  | some _ => .ok (.error [⟨"model_type", [.field name]⟩])

def sectionForms : List (String × Form) :=
  ["app", "api", "analysis", "performance", "workspace"].map fun n => (n, .json)

def Application.load (env : Environment) : Except Failure Application := do
  let sections ← environmentFields env "" sectionForms
  let app ← given sections "app" AppSettings.names (AppSettings.load env)
  let api ← given sections "api" ApiSettings.names (ApiSettings.load env)
  let analysis ← given sections "analysis" Config.names (Config.load env)
  let performance ← given sections "performance" Performance.names (Performance.load env)
  let workspace ← given sections "workspace" WorkspaceSettings.names (WorkspaceSettings.load env)
  (Application.mk <$> app <*> api <*> analysis <*> performance <*> workspace).toFailure

def Application.isProduction (a : Application) : Bool := a.app.env == "production"

def Application.toJson (a : Application) : Json :=
  .obj [("app", .obj [("name", .str a.app.name), ("env", .str a.app.env),
      ("debug", .bool a.app.debug), ("log_level", .str a.app.logLevel)]),
    ("api", .obj [("host", .str a.api.host), ("port", .int a.api.port),
      ("workers", .int a.api.workers), ("reload", .bool a.api.reload)]),
    ("workspace", .obj [("root", .str a.workspace.root),
      ("path_mapping_file", .str a.workspace.pathMappingFile),
      ("use_global_excludes", .bool a.workspace.useGlobalExcludes)]),
    ("performance", .obj [("analysis_max_nodes", .int a.performance.analysisMaxNodes),
      ("analysis_timeout_seconds", .str (Number.fixed 6 a.performance.analysisTimeoutSeconds)),
      ("progress_interval_seconds", .str (Number.fixed 6 a.performance.progressIntervalSeconds)),
      ("import_cache_max_size", .int a.performance.importCacheMaxSize)]),
    ("analysis", a.analysis.toJson), ("is_production", .bool a.isProduction)]

end Coselect.Settings
