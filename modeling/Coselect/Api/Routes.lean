import Coselect.Api.Request
import Coselect.Selection.Site
import Coselect.Settings.Application

/-! The interface over HTTP. A request for a service that is not there is refused first, then
a body of the wrong shape. -/

namespace Coselect.Api

open Selection Settings

def title : String := "Smart Select API"
def version : String := "0.1.0"

inductive Endpoint
  | health
  | live
  | analyze
  | select
  | deselect
  | selection
  | reset
  | docs
  deriving DecidableEq, Repr

def baseRoutes : List (String × String × Endpoint) :=
  [("GET", "/api/v1/health", .health), ("GET", "/api/v1/health/live", .live),
    ("POST", "/api/v1/analyze", .analyze), ("POST", "/api/v1/selection/roots", .select),
    ("DELETE", "/api/v1/selection/roots", .deselect), ("GET", "/api/v1/selection", .selection),
    ("POST", "/api/v1/cache/reset", .reset)]

/-- The pages about the interface, which are there for debugging only. -/
def docRoutes : List (String × String × Endpoint) :=
  ["/docs", "/docs/oauth2-redirect", "/redoc", "/openapi.json"].flatMap fun p =>
    [("GET", p, .docs), ("HEAD", p, .docs)]

def routes (a : Application) : List (String × String × Endpoint) :=
  (if a.app.debug then docRoutes else []) ++ baseRoutes

inductive Routing
  | endpoint (e : Endpoint)
  | wrongMethod
  | elsewhere
  | nowhere

def endsWithSlash (path : String) : Bool := Text.endsWith "/" path && path ≠ "/"

def withoutSlashes (path : String) : String :=
  String.ofList (Text.dropEndWhile (· == '/') path.toList)

/-- Where a request goes: a path with slashes behind it is sent on to the one without. -/
def route (a : Application) (method path : String) : Routing :=
  let here := (routes a).filter fun r => r.2.1 == path
  match here.find? fun r => r.1 == method, here with
  | some r, _ => .endpoint r.2.2
  | none, _ :: _ => .wrongMethod
  | none, [] =>
    if endsWithSlash path && (routes a).any fun r => r.2.1 == withoutSlashes path then .elsewhere
    else .nowhere

def health (a : Application) : Json :=
  .obj [("status", .str "healthy"), ("version", .str version), ("environment", .str a.app.env),
    ("smart_select_enabled", a.analysis.enabled)]

def analysisBody (g : Graph.DependencyGraph) : Json :=
  .obj [("root_path", .str (g.roots.headD "")), ("node_count", .nat g.nodeCount),
    ("edge_count", .nat g.edgeCount), ("partial", .bool g.isPartial), ("graph", g.toJson)]

def updateBody : Option Update → Json
  | none => .obj (Update.toFields {} ++ [("superseded", .bool true)])
  | some u => .obj (u.toFields ++ [("superseded", .bool false)])

def selectionBody (s : Service) : Json :=
  .obj [("manual_roots", .strings (Text.sortedSet s.manualRoots)),
    ("auto_selected", s.orchestrator.state.snapshot),
    ("total", .nat s.orchestrator.state.active.length)]

/-- The configuration of a request with options of its own. -/
def requestConfig (s : Service) : Option Fields → Except Failure (Option Config)
  | none => .ok none
  | some fs => (s.config.withOverrides fs).toFailure.map some

def answered : Except Failure Selection.Answer → Response
  | .error f => .ofFailure f
  | .ok (.graph g) => .ok (analysisBody g)
  | .ok (.update u) => .ok (updateBody u)

/-- A request for a root with its options, passed on to the service. -/
def forRoot (s : Site) (withConfig : Bool) (body : Option Json)
    (request : String → Option Config → Selection.Request) : Response × Site :=
  match readRootRequest withConfig body with
  | .error rs => (⟨422, .refusals rs⟩, s)
  | .ok r =>
    match requestConfig s.service r.overrides with
    | .error f => (.ofFailure f, s)
    | .ok config =>
      let (a, s) := s.handle (request r.root config)
      (answered a, s)

/-- The answer of an endpoint that needs the service. -/
def serve (s : Site) (e : Endpoint) (body : Option Json) : Response × Site :=
  match e with
  | .analyze => forRoot s true body .analyze
  | .select => forRoot s true body .select
  | .deselect => forRoot s false body fun root _ => .deselect root
  | .reset => (.ok (.obj [("status", .str "reset")]), s.resetCaches)
  | _ => (.ok (selectionBody s.service), s)

def noService : Response := .detail 503 "Smart select service not initialized"

/-- The whole response to a request, with a service or without. -/
def respondFully (a : Application) (site : Option Site) (r : Request) : Response × Option Site :=
  match route a r.method r.path with
  | .nowhere => (.detail 404 "Not Found", site)
  | .wrongMethod => (.detail 405 "Method Not Allowed", site)
  | .elsewhere => (⟨307, .text ""⟩, site)
  | .endpoint .health => (.ok (health a), site)
  | .endpoint .live => (.ok (.obj [("status", .str "alive")]), site)
  | .endpoint .docs => (⟨200, .text ""⟩, site)
  | .endpoint e =>
    match site with
    | none => (noService, none)
    | some s =>
      let (response, s) := serve s e r.body.value
      (response, some s)

/-- The response to a request; one for the head alone brings no content. -/
def respond (a : Application) (site : Option Site) (r : Request) : Response × Option Site :=
  let (response, site) := respondFully a site r
  (if r.method = "HEAD" then { response with content := .text "" } else response, site)

/-- The origin that a response allows: in development any one. -/
def allowedOrigin (a : Application) (r : Request) (response : Response) : Option String :=
  if a.app.env = "development" ∧ response.status ≠ 500 then r.origin else none

/-- The site of an application with its settings. -/
def siteOf (a : Application) (env : Environment) (excludesSetting : String) : Site :=
  { service :=
      { workspace :=
          { Analysis.Workspace.ofRoot a.workspace.root with
            mappingFile := a.workspace.pathMappingFile
            registry := .ofSuffixes a.analysis.suffixTexts
            globalExcludes := a.workspace.useGlobalExcludes
            excludesSetting
            environment := env
            maxNodes := a.performance.analysisMaxNodes.toNat }
        config := a.analysis }
    caches := .ofSize a.performance.importCacheMaxSize }

end Coselect.Api
