import Coselect.Api.Target
import Coselect.Settings.Config

/-! Requests over HTTP, their bodies, and the responses to them. -/

namespace Coselect.Api

open Settings

/-- A body: a value, or text of no stated type, which is not read. -/
inductive Body
  | none
  | json (v : Json)
  | text (s : String)

/-- A request for the path that its target names. -/
structure Request where
  method : String
  path : String
  body : Body := .none
  origin : Option String := Option.none

/-- A request in any case of its method; fails when the target names no path. -/
def Request.ofTarget (method target : String) (body : Body) (origin : Option String) :
    Except Failure Request :=
  match Target.path? target with
  | some path => .ok ⟨String.ofList (method.toList.map Char.toUpper), path, body, origin⟩
  | Option.none => .error .noTarget

inductive Content
  | json (v : Json)
  | text (s : String)
  /-- The refusals of a request that is not well formed. -/
  | refusals (rs : List Refusal)

structure Response where
  status : Nat
  content : Content

def Response.ok (v : Json) : Response := ⟨200, .json v⟩

def Response.detail (status : Nat) (text : String) : Response :=
  ⟨status, .json (.obj [("detail", .str text)])⟩

/-- The response to a request on which the service broke down. -/
def Response.breakdown : Response := ⟨500, .text "Internal Server Error"⟩

def Response.ofFailure : Failure → Response
  | .fault f => ⟨f.status, .json f.toJson⟩
  | _ => .breakdown

/-- The value of a body, none when it is empty or null. -/
def Body.value : Body → Option Json
  | .none | .json .null => Option.none
  | .json v => some v
  | .text s => if s = "" then Option.none else some (.str s)

/-- A body that names a root. -/
structure RootRequest where
  root : String
  overrides : Option Fields

def readRoot (fs : Fields) : Checked String :=
  match fs.lookup "root_path" with
  | none => .error [⟨"missing", [.field "root_path"]⟩]
  | some v => ((readText v).also fun s =>
      if s = "" then .refuse "string_too_short" else .ok s).under (.field "root_path")

/-- The options in a body; none when there is no object of them. -/
def readConfig (fs : Fields) : Checked (Option Fields) :=
  match fs.lookup "config" with
  | none | some .null => .ok none
  | some (.obj options) => (some <$> readOverrides options).under (.field "config")
  | some _ => .error [⟨"model_attributes_type", [.field "config"]⟩]

/-- A body with a root, and with options where the request may have them. -/
def readRootRequest (withConfig : Bool) : Option Json → Checked RootRequest
  | none => .error [⟨"missing", [.field "body"]⟩]
  | some (.obj fs) =>
    (RootRequest.mk <$> readRoot fs <*> (if withConfig then readConfig fs else .ok none)).under
      (.field "body")
  | some _ => .error [⟨"model_attributes_type", [.field "body"]⟩]

end Coselect.Api
