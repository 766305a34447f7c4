import Mathlib.Data.List.Nodup
import Mathlib.Logic.Function.Basic
import Coselect.Proofs.Selection.KeyedLock
import Coselect.Selection.Orchestrator

/-! Calls that run side by side, seen root by root. The queue of a root's lock holds the calls
for that root in the order of their requests; all but the first are waiting, so what is
left to do for a root is what is left of the first call. A step then either does nothing to
the selection, or exchanges a contribution, or performs the next job of a root. -/

namespace Coselect.Selection

open Coselect.Graph

/-- The graph a call leaves its root with. -/
def Purpose.graph? : Purpose → Option DependencyGraph
  | apply g => some g
  | remove => none

/-- The graph last applied for a root and not removed since, after some calls. -/
def applied (calls : List (String × Purpose)) (root : String) : Option DependencyGraph :=
  calls.foldl (fun g c => if c.1 = root then c.2.graph? else g) none

theorem applied_append (calls : List (String × Purpose)) (root root' : String) (p : Purpose) :
    applied (calls ++ [(root, p)]) root' = if root = root' then p.graph? else applied calls root' := by
  simp [applied]

/-- Whether a call stands in the queue of its root. -/
def Phase.inLine : Phase → Bool
  | .starting | .finished => false
  | _ => true

/-- Whether a call has exchanged its root's contribution and not yet left. -/
def Phase.atWork : Phase → Bool
  | .working _ | .atRecord .. => true
  | _ => false

def Phase.jobs : Phase → List Job
  | .working jobs => jobs
  | .atRecord job jobs => job :: jobs
  | _ => []

theorem Phase.jobs_eq_nil {p : Phase} (h : p.atWork = false) : p.jobs = [] := by
  cases p <;> simp_all [atWork, jobs]

/-- What the next step of a call logs: its request for the lock of its root. -/
def Call.requests (c : Call) : List (String × Purpose) :=
  match c.phase with
  | .starting => [(c.root, c.purpose)]
  | _ => []

/-- What a call is going to do once it holds the lock. -/
def Call.intent? (c : Call) : Option Purpose :=
  match c.phase with
  | .waiting => some c.purpose
  | _ => none

namespace Orchestrator

/-- The states of an orchestrator under any number of calls, each of which starts at any time
and takes its steps whenever it can; with the calls that have asked for the lock of their
root, in this order. -/
inductive Runs : List (String × Purpose) → Orchestrator → Prop
  | initial : Runs [] {}
  | start {log o} (task : Nat) (root : String) (purpose : Purpose) :
      Runs log o → o.calls.get? task = none → Runs log (o.start task (Path.normalize root) purpose)
  | step {log o o' c} (task : Nat) :
      Runs log o → o.calls.get? task = some c → o.step? task = some o' →
      Runs (log ++ c.requests) o'
  | collect {log o c} (task : Nat) :
      Runs log o → o.calls.get? task = some c → c.phase = .finished → Runs log (o.collect task).2

/-- No call for a root is in progress. -/
def Quiet (o : Orchestrator) (root : String) : Prop :=
  ∀ task c, o.calls.get? task = some c → c.root = root → c.phase = .finished

/-- No call is in progress. -/
def Idle (o : Orchestrator) : Prop := ∀ task c, o.calls.get? task = some c → c.phase = .finished

/-- What a call does in one step. -/
inductive Advance (o : Orchestrator) (task : Nat) (c : Call) : Orchestrator → Prop
  | request : c.phase = .starting → Advance o task c
      { o with rootLocks := o.rootLocks.request c.root task
               calls := o.calls.insert task { c with phase := .waiting } }
  | exchange : c.phase = .waiting → o.rootLocks.holds c.root task = true → Advance o task c
      { o with state := (c.exchange o.state).1
               calls := o.calls.insert task { c with phase := .working (c.exchange o.state).2 } }
  | leave : c.phase = .working [] → Advance o task c
      { o with rootLocks := o.rootLocks.leave c.root task
               calls := o.calls.insert task { c with phase := .finished } }
  | approach {j : Job} {jobs : List Job} : c.phase = .working (j :: jobs) → Advance o task c
      { o with recordLocks := o.recordLocks.request j.path task
               calls := o.calls.insert task { c with phase := .atRecord j jobs } }
  | perform {j : Job} {jobs : List Job} : c.phase = .atRecord j jobs →
      o.recordLocks.holds j.path task = true → Advance o task c
      { o with state := (j.perform c.root o.state c.update).1
               recordLocks := o.recordLocks.leave j.path task
               calls := o.calls.insert task
                 { c with phase := .working jobs, update := (j.perform c.root o.state c.update).2 } }

variable {o o' : Orchestrator} {task task' : Nat} {root root' : String} {c c' : Call}

theorem Advance.calls (h : Advance o task c o') : ∃ phase update,
    phase ≠ .starting ∧ o'.calls = o.calls.insert task { c with phase, update } := by
  cases h <;> exact ⟨_, _, Phase.noConfusion, rfl⟩

theorem advance_of_step? (hc : o.calls.get? task = some c) (h : o.step? task = some o') :
    Advance o task c o' := by
  unfold step? at h
  simp only [hc] at h
  split at h
  next hp => cases h; exact .request hp
  next hp =>
    split at h
    next hh => cases h; exact .exchange hp hh
    next => contradiction
  next hp => cases h; exact .leave hp
  next hp => cases h; exact .approach hp
  next hp =>
    split at h
    next hh => cases h; exact .perform hp hh
    next => contradiction
  next => contradiction

end Orchestrator

end Coselect.Selection
