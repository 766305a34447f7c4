import Coselect.Path
import Coselect.Selection.KeyedLock
import Coselect.Selection.State

/-! Roots applied to the selection and removed from it, as calls that may run side by side.
A call waits for the lock of its root, exchanges the root's contribution, and then goes
through the files concerned one by one, each under the lock of its record. Every request
for a lock and every grant is a step, so calls can be interleaved at any of them. -/

namespace Coselect.Selection

open Coselect.Graph

/-- What a call is to do for its root. -/
inductive Purpose
  | apply (g : DependencyGraph)
  | remove

/-- What is to be done about one file. -/
inductive Job
  | claim (path : String) (c : Claim)
  | release (path : String)

def Job.path : Job → String
  | claim p _ => p
  | release p => p

def Job.perform (j : Job) (root : String) (s : State) (u : Update) : State × Update :=
  match j with
  | claim path c => s.claim u root path c
  | release path => s.release u root path

/-- How far a call is. -/
inductive Phase
  | starting
  /-- The root's lock is requested. -/
  | waiting
  /-- The root's lock is held. -/
  | working (jobs : List Job)
  /-- The root's lock is held, and that of the record of the first job is requested. -/
  | atRecord (job : Job) (jobs : List Job)
  | finished

structure Call where
  root : String
  purpose : Purpose
  phase : Phase := .starting
  update : Update := {}

structure Orchestrator where
  state : State := {}
  rootLocks : KeyedLock := {}
  recordLocks : KeyedLock := {}
  calls : Table Nat Call := .empty

/-- Exchanges the contribution of a call's root, and says what is left to do. -/
def Call.exchange (c : Call) (s : State) : State × List Job :=
  let old := (s.contributions.get? c.root).getD .empty
  match c.purpose with
  | .apply g =>
    let new := Contribution.ofGraph c.root g
    ({ s with contributions := s.contributions.insert c.root new
              graphs := s.graphs.insert c.root g },
      (old.keys.filter (!new.contains ·)).map .release ++ new.entries.map fun e => .claim e.1 e.2)
  | .remove =>
    ({ s with contributions := s.contributions.erase c.root, graphs := s.graphs.erase c.root },
      old.keys.map .release)

namespace Orchestrator

/-- The next step of a call, none while it has to wait or once it is finished. -/
def step? (o : Orchestrator) (task : Nat) : Option Orchestrator :=
  match o.calls.get? task with
  | none => none
  | some c =>
    let updated (c : Call) : Table Nat Call := o.calls.insert task c
    match c.phase with
    | .starting => some
      { o with rootLocks := o.rootLocks.request c.root task
               calls := updated { c with phase := .waiting } }
    | .waiting =>
      if o.rootLocks.holds c.root task then
        let (state, jobs) := c.exchange o.state
        some { o with state, calls := updated { c with phase := .working jobs } }
      else none
    | .working [] => some
      { o with rootLocks := o.rootLocks.leave c.root task
               calls := updated { c with phase := .finished } }
    | .working (j :: jobs) => some
      { o with recordLocks := o.recordLocks.request j.path task
               calls := updated { c with phase := .atRecord j jobs } }
    | .atRecord j jobs =>
      if o.recordLocks.holds j.path task then
        let (state, update) := j.perform c.root o.state c.update
        some { o with state, recordLocks := o.recordLocks.leave j.path task
                      calls := updated { c with phase := .working jobs, update } }
      else none
    | .finished => none

/-- The steps of one call for as long as it can go on, at most `fuel`. -/
def goOn (task : Nat) : Nat → Orchestrator → Orchestrator
  | 0, o => o
  | fuel + 1, o =>
    match o.step? task with
    | none => o
    | some o => goOn task fuel o

/-- A number that no call has. -/
def freshCall (o : Orchestrator) : Nat := o.calls.keys.foldl (fun n k => max n (k + 1)) 0

def start (o : Orchestrator) (task : Nat) (root : String) (purpose : Purpose) : Orchestrator :=
  { o with calls := o.calls.insert task { root, purpose } }

/-- Takes a call off the table, with what it did. -/
def collect (o : Orchestrator) (task : Nat) : Update × Orchestrator :=
  (((o.calls.get? task).map (·.update)).getD {}, { o with calls := o.calls.erase task })

/-- Enough steps for a call that is alone. -/
def enough (o : Orchestrator) (root : String) : Purpose → Nat
  | .apply g => 2 * (oldSize + (Contribution.ofGraph root g).size) + 3
  | .remove => 2 * oldSize + 3
where
  oldSize : Nat := ((o.state.contributions.get? root).map Table.size).getD 0

/-- A call run to its end. -/
def perform (o : Orchestrator) (root : String) (purpose : Purpose) : Update × Orchestrator :=
  let root := Path.normalize root
  let task := o.freshCall
  (goOn task (o.enough root purpose) (o.start task root purpose)).collect task

def apply (o : Orchestrator) (root : String) (g : DependencyGraph) : Update × Orchestrator :=
  o.perform root (.apply g)

def remove (o : Orchestrator) (root : String) : Update × Orchestrator := o.perform root .remove

/-- Removes every root. -/
def clear (o : Orchestrator) : Update × Orchestrator :=
  o.state.roots.foldl (fun (u, o) root =>
    let (v, o) := o.remove root
    (u.andThen v, o)) ({}, o)

def record? (o : Orchestrator) (path : String) : Option Record :=
  o.state.records.get? (Path.normalize path)

def graphFor? (o : Orchestrator) (root : String) : Option DependencyGraph :=
  o.state.graphs.get? (Path.normalize root)

/-- How many locks are held or awaited. -/
def locks (o : Orchestrator) : Nat := o.rootLocks.size + o.recordLocks.size

end Orchestrator

end Coselect.Selection
