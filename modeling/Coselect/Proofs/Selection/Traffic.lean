import Coselect.Proofs.Analysis.Ends
import Coselect.Proofs.Selection.Calls
import Coselect.Selection.Service

/-! A service with any number of requests side by side. The analysis of a request goes on
whenever it likes, from one place where it stands still to the next; it is answered anything,
finds the caches in any state and learns at any time whether its own request was superseded.
What a request does between two such places happens in one piece, up to its place in the line
for the lock of its root; from there on it is a call like those of the orchestrator. -/

namespace Coselect.Selection

open Analysis Coselect.Graph Settings

/-- The analysis of a request that goes on. -/
structure Pending where
  root : String
  rest : Inquiry (Except Failure DependencyGraph)

/-- A service, and the analyses that go on by the numbers of their requests. -/
structure Traffic where
  service : Service
  pending : Table Nat Pending := .empty

inductive Event
  /-- A request with a configuration that is not enabled. -/
  | refused (root : String)
  | began (root : String) (request : Nat)
  | resumed (request : Nat)
  /-- The analysis of a request came to a graph. Either this is going to be applied, or the
  request answers none. -/
  | returned (root : String) (request : Nat) (answer : Option DependencyGraph)
  /-- The analysis of a request failed or was given up. -/
  | failed (root : String) (request : Nat)
  | withdrew (root : String)
  /-- A call to the orchestrator took a step. -/
  | worked (task : Nat)
  | collected (task : Nat)

/-- The number of the request whose doing an event is. -/
def Event.request? : Event → Option Nat
  | began _ n | resumed n | returned _ n _ | failed _ n => some n
  | _ => none

/-- Whether what is in flight for a root is superseded. -/
def Event.Supersedes (root : String) : Event → Prop
  | began r _ | withdrew r => r = root
  | _ => False

/-- What an event hands to the orchestrator. -/
def Event.call? : Event → Option (String × Purpose)
  | returned root _ (some g) => some (root, .apply g)
  | withdrew root => some (root, .remove)
  | _ => none

/-- A new call, up to its place in the line for the lock of its root. -/
def Orchestrator.enter? (o : Orchestrator) (task : Nat) (root : String) (purpose : Purpose) :
    Option Orchestrator :=
  if o.calls.contains task then none else (o.start task (Path.normalize root) purpose).step? task

namespace Traffic

/-- What the analysis of a request may find when it looks for a signal. -/
def Signals (service : Service) (request : Nat) (s : Signal) : Prop :=
  s.cancelled = (service.signal request).cancelled

theorem proceeds_settle (service : Service) (n : Nat) (rest : Inquiry (Except Failure DependencyGraph))
    (caches : Caches) :
    Inquiry.Proceeds (Signals service n) rest caches (rest.settle (service.signal n) caches).1 :=
  Inquiry.proceeds_settle (show Signals service n (service.signal n) from rfl) rest caches

inductive Move : Traffic → Event → Traffic → Prop
  | refuse {t f} (root : String) (config : Option Config) :
      t.service.configFor config = .error f → Move t (.refused (Path.normalize root)) t
  | begin {t c n service rest} (root : String) (config : Option Config) (caches : Caches) :
      t.service.configFor config = .ok c → t.service.begin (Path.normalize root) = (n, service) →
      Inquiry.Proceeds (Signals service n) (service.analysis (Path.normalize root) c).run caches rest →
      Move t (.began (Path.normalize root) n)
        { service, pending := t.pending.insert n ⟨Path.normalize root, rest⟩ }
  | resume {t n p next rest} (caches : Caches) :
      t.pending.get? n = some p → Inquiry.Resumes p.rest next →
      Inquiry.Proceeds (Signals t.service n) next caches rest →
      Move t (.resumed n) { t with pending := t.pending.insert n { p with rest } }
  | discard {t n root g service} :
      t.pending.get? n = some ⟨root, .done (.ok g)⟩ → t.service.accept root n = (false, service) →
      Move t (.returned root n none) { service, pending := t.pending.erase n }
  | accept {t n root g service orchestrator} (task : Nat) :
      t.pending.get? n = some ⟨root, .done (.ok g)⟩ → t.service.accept root n = (true, service) →
      service.orchestrator.enter? task root (.apply g) = some orchestrator →
      Move t (.returned root n (some g))
        { service := { service with orchestrator }, pending := t.pending.erase n }
  | fail {t n p} :
      t.pending.get? n = some p →
      Move t (.failed p.root n)
        { service := t.service.land p.root n, pending := t.pending.erase n }
  | withdraw {t orchestrator} (root : String) (task : Nat) :
      t.service.orchestrator.enter? task (Path.normalize root) .remove = some orchestrator →
      Move t (.withdrew (Path.normalize root))
        { t with service := { t.service.withdraw (Path.normalize root) with orchestrator } }
  | work {t orchestrator} (task : Nat) :
      t.service.orchestrator.step? task = some orchestrator →
      Move t (.worked task) { t with service := { t.service with orchestrator } }
  | collect {t c} (task : Nat) :
      t.service.orchestrator.calls.get? task = some c → c.phase = .finished →
      Move t (.collected task)
        { t with service := { t.service with orchestrator := (t.service.orchestrator.collect task).2 } }

/-- The events that lead from one state to another. -/
inductive Runs : Traffic → List Event → Traffic → Prop
  | refl (t : Traffic) : Runs t [] t
  | tail {t log t' e t''} : Runs t log t' → Move t' e t'' → Runs t (log ++ [e]) t''

/-- A service before its first request. -/
def opening (workspace : Workspace) (config : Config) : Traffic :=
  { service := { workspace, config } }

/-- No request is in progress. -/
def AtRest (t : Traffic) : Prop := t.pending.entries = [] ∧ t.service.orchestrator.Idle

end Traffic

end Coselect.Selection
