import Coselect.Analysis.Analyze
import Coselect.Selection.Orchestrator

/-! Requests to select and deselect roots. Selecting analyses the root first; while that
runs, a newer request for the same root supersedes it. A request has a number, the table
of requests in flight holds the newest one of each root, and those superseded are marked
as cancelled. -/

namespace Coselect.Selection

open Analysis Coselect.Graph Settings

structure Service where
  workspace : Workspace
  config : Config := {}
  orchestrator : Orchestrator := {}
  manualRoots : List String := []
  inFlight : Table String Nat := .empty
  cancelled : List Nat := []
  nextRequest : Nat := 0

namespace Service

/-- The configuration of a request, the service's own if it brings none. -/
def configFor (s : Service) (config : Option Config) : Except Failure Config :=
  let c := config.getD s.config
  if c.enabled.isTruthy then .ok c else .error (.fault .disabled)

/-- The analysis of a root under a configuration. -/
def analysis (s : Service) (root : String) (c : Config) : Work DependencyGraph :=
  Analysis.analyze s.workspace c root s.workspace.maxNodes

/-- Marks the request in flight for a root as cancelled. -/
def supersede (s : Service) (root : String) : Service :=
  match s.inFlight.get? root with
  | some n => { s with cancelled := n :: s.cancelled }
  | none => s

/-- Takes a new request for a root on, in the place of an older one. -/
def begin (s : Service) (root : String) : Nat × Service :=
  let s := s.supersede root
  (s.nextRequest,
    { s with inFlight := s.inFlight.insert root s.nextRequest, nextRequest := s.nextRequest + 1 })

/-- What a request finds when it looks for a signal. -/
def signal (s : Service) (request : Nat) : Signal := { cancelled := s.cancelled.contains request }

/-- Takes a request off the table unless a newer one has its place. -/
def land (s : Service) (root : String) (request : Nat) : Service :=
  if s.inFlight.get? root = some request then { s with inFlight := s.inFlight.erase root } else s

/-- Ends the analysis of a request; unless it was superseded, its root counts as selected from
now on, and its graph is to be applied. -/
def accept (s : Service) (root : String) (request : Nat) : Bool × Service :=
  let s := s.land root request
  if s.cancelled.contains request then (false, s)
  else (true, { s with manualRoots := s.manualRoots.insert root })

/-- Applies the graph of a request that was not superseded. -/
def conclude (s : Service) (root : String) (request : Nat) (g : DependencyGraph) :
    Option Update × Service :=
  match s.accept root request with
  | (false, s) => (none, s)
  | (true, s) =>
    let (u, orchestrator) := s.orchestrator.apply root g
    (some u, { s with orchestrator })

/-- Ends a request by what its analysis came to. -/
def finish (s : Service) (root : String) (request : Nat) :
    Except Failure DependencyGraph → Except Failure (Option Update) × Service
  | .ok g =>
    let (u, s) := s.conclude root request g
    (.ok u, s)
  | .error f => (.error f, s.land root request)

/-- Takes a root back: what is in flight for it is superseded, and it no longer counts as
selected. -/
def withdraw (s : Service) (root : String) : Service :=
  let s := s.supersede root
  { s with inFlight := s.inFlight.erase root, manualRoots := s.manualRoots.filter (· ≠ root) }

/-- Removes a root. -/
def deselect (s : Service) (root : String) : Update × Service :=
  let root := Path.normalize root
  let s := s.withdraw root
  let (u, orchestrator) := s.orchestrator.remove root
  (u, { s with orchestrator })

def clear (s : Service) : Update × Service :=
  let (u, orchestrator) := s.orchestrator.clear
  (u, { s with orchestrator })

/-- The analysis of a root without selecting it. -/
def analyze (s : Service) (root : String) (config : Option Config) : Work DependencyGraph :=
  match s.configFor config with
  | .error f => Work.fail f
  | .ok c => s.analysis root c

end Service

end Coselect.Selection
