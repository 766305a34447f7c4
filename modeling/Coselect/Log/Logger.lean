import Coselect.Log.Format
import Coselect.Settings.Application

/-! Log lines. Absolute paths below the workspace root are shown from there, in every field but
the event's own text, and a collection of more than ten items is cut down to a sample and a
count. A context adds its fields to every line inside it and gives back what they were before;
the fields of a line win over the context. -/

namespace Coselect.Log

abbrev Fields := List (String × Value)

def rootLead (root : String) : String :=
  String.ofList (Text.dropEndWhile (· == '/') root.toList) ++ "/"

def shorten (lead : String) : Value → Value
  | .plain (.str s) =>
    match Text.afterStart lead.toList s.toList with
    | some rest => .plain (.str (String.ofList rest))
    | none => .plain (.str s)
  | v => v

def Value.shortened (lead : String) : Value → Value
  | list xs => .list (xs.map (shorten lead))
  | tuple xs => .tuple (xs.map (shorten lead))
  | set xs => .set (distinct (xs.map (shorten lead)))
  | v => shorten lead v

/-- The fields with paths shown from the root. -/
def relativized (root : String) (fs : Fields) : Fields :=
  fs.map fun (k, v) => (k, if k = "event" then v else v.shortened (rootLead root))

def maxItems : Nat := 10

def sample (xs : List Value) : Value :=
  .record [("sample", .list (xs.take maxItems)), ("total", .plain (.nat xs.length))]

def Value.truncated (v : Value) : Value :=
  match v with
  | list xs | tuple xs => if maxItems < xs.length then sample xs else v
  | set xs => if maxItems < xs.length then sample (sorted xs) else v
  | v => v

/-- The fields with long collections cut down. -/
def truncated (fs : Fields) : Fields := fs.map fun (k, v) => (k, v.truncated)

/-! ### Context and lines -/

/-- Binds a field; one already bound keeps its place. -/
def bind (k : String) (v : α) : List (String × α) → List (String × α)
  | [] => [(k, v)]
  | (k', v') :: fs => if k' = k then (k, v) :: fs else (k', v') :: bind k v fs

def bindAll (outer inner : List (String × α)) : List (String × α) :=
  inner.foldl (fun acc (k, v) => bind k v acc) outer

/-- What is bound after entering each of some nested contexts, and again after leaving those
inside it. -/
def seen (outer : List (String × α)) : List (List (String × α)) → List (List (String × α))
  | [] => []
  | level :: levels =>
    let bound := bindAll outer level
    bound :: seen bound levels ++ [bound]

inductive Level
  | debug
  | info
  | warning
  | error
  | critical
  deriving DecidableEq, Repr

namespace Level

def all : List Level := [debug, info, warning, error, critical]

def name : Level → String
  | debug => "debug"
  | info => "info"
  | warning => "warning"
  | error => "error"
  | critical => "critical"

def rank : Level → Nat
  | debug => 10
  | info => 20
  | warning => 30
  | error => 40
  | critical => 50

/-- The level of a method that logs. -/
def ofMethod? (method : String) : Option Level :=
  match method with
  | "warn" => some warning
  | "exception" => some error
  | "fatal" => some critical
  | m => all.find? fun l => l.name == m

def ofSetting (setting : String) : Level :=
  (all.find? fun l => l.name == String.ofList (setting.toList.map Char.toLower)).getD debug

end Level

/-- The least level of the loggers that would drown out everything else. -/
def quietLevel : Level := .warning

/-- Names that fields of an event cannot have. -/
def takenNames : List String := ["self", "event", "method_name"]

/-- Fields that tell how a line is made, and those that it gets from elsewhere. -/
def dropped : List String := ["exc_info", "stack_info", "timestamp"]

/-- The record that arguments of one item stand for. -/
def argumentsOf (v : Value) : Value :=
  match v with
  | .list [.record (f :: fs)] | .tuple [.record (f :: fs)] => .record (f :: fs)
  | v => v

/-- The event's text with positional arguments filled in, which are then dropped. -/
def withArguments (fs : Fields) : Except Failure Fields :=
  match fs.lookup "positional_args", fs.lookup "event" with
  | none, _ | some (.plain .null), _ => .ok fs
  | some args, event =>
    let fs := fs.filter fun f => f.1 != "positional_args"
    if !args.isTruthy then .ok fs
    else match args, event with
      | .plain (.str _), some (.plain (.str text)) | .list _, some (.plain (.str text))
      | .tuple _, some (.plain (.str text)) | .record (_ :: _ :: _), some (.plain (.str text)) =>
        match fill text (argumentsOf args) with
        | .ok filled => .ok (bind "event" (.plain (.str filled)) fs)
        | .error f => .error f
      | .record _, _ | _, none => .error .unknownKey
      | _, _ => .error (.wrongType "arguments do not fit the event")

/-- The line of an event, none below the level that is set. -/
def line? (a : Settings.Application) (logger : String) (context : Fields) (method : String)
    (event : Value) (fields : Fields) : Except Failure (Option Json) :=
  match Level.ofMethod? method with
  | none => .error (.notOffered ("no level has the name " ++ method))
  | some level =>
    if fields.any fun f => takenNames.contains f.1 then
      .error (.wrongType "a name is given twice")
    else
      let own := match event with
        | .plain .null => []
        | event => [("event", event)]
      let named : Fields :=
        [("level", .plain (.str level.name)), ("logger", .plain (.str logger))]
      match withArguments (bindAll (bindAll (bindAll context fields) own) named) with
      | .error f => .error f
      | .ok all =>
        if level.rank < (Level.ofSetting a.app.logLevel).rank then .ok none
        else
          let kept := all.filter fun f => !dropped.contains f.1
          .ok (some (.obj (Value.toFields (truncated (relativized a.workspace.root kept)))))

end Coselect.Log
