import Coselect.Graph.Walk

/-! The walk over a known graph on a clock that only expansions move. Before each expansion
the walk stops if it was cancelled by then or its time is over; an expansion that would outlast
the time left stops it at the deadline. Progress is reported at most once per interval; a listener
that fails at a report is noted, and the walk goes on. Times are as exact as the clock, which may
round them. -/

namespace Coselect.Graph

/-- The nodes discovered and those waiting at the time of a report. -/
structure Progress where
  visited : Nat
  queued : Nat
  deriving DecidableEq, Repr

/-- What a walk is asked to do, and how the expansions of its nodes behave. -/
structure Journey where
  start : String
  neighbours : Table String (List String)
  bounds : Bounds := {}
  timeout : Option Rat := none
  cost : String → Rat := fun _ => 0
  /-- What the clock makes of a time. -/
  rounded : Rat → Rat := id
  /-- Whether the walk is cancelled before it starts. -/
  cancelBefore : Bool := false
  /-- The node at the start of whose expansion the walk is cancelled. -/
  cancelAt : Option String := none
  /-- The time from which on the walk is cancelled. -/
  cancelTime : Option Rat := none
  /-- Whether a node's expansion gives up for lack of time. -/
  givesUp : String → Bool := fun _ => false
  /-- Whether a node's expansion fails. -/
  fails : String → Bool := fun _ => false
  /-- The interval of progress reports, if there are any. -/
  interval : Option Rat := none
  /-- What the listener makes of a report: nothing, or a failure with a text. -/
  hears : Progress → Except String Unit := fun _ => .ok ()

structure Traveller where
  walk : Walk
  now : Rat := 0
  lastReport : Rat := 0
  cancelled : Bool := false
  reports : List Progress := []
  /-- The failures of the listener. -/
  unheard : List String := []

/-- How a walk ends: with a reason, or with the failure of a node's expansion. -/
inductive Ending
  | stopped (reason : StopReason)
  | failed (node : String) (depth : Nat)
  deriving DecidableEq, Repr

namespace Journey

def nextOf (j : Journey) (node : String) : List String := (j.neighbours.get? node).getD []

def setOut (j : Journey) : Traveller := { walk := .start j.start, cancelled := j.cancelBefore }

/-- Hands a report to the listener. -/
def tell (j : Journey) (t : Traveller) (p : Progress) : Traveller :=
  let t := { t with reports := t.reports ++ [p] }
  match j.hears p with
  | .ok () => t
  | .error failure => { t with unheard := t.unheard ++ [failure] }

/-- Reports progress when an interval has passed since the last report. -/
def report (j : Journey) (t : Traveller) : Traveller :=
  match j.interval with
  | none => t
  | some interval =>
    if interval ≤ j.rounded (t.now - t.lastReport) then
      j.tell { t with lastReport := t.now } ⟨t.walk.depths.size, t.walk.queue.length⟩
    else t

/-- The time after an expansion that starts now; a cost below zero counts as none. -/
def arrival (j : Journey) (now : Rat) (node : String) : Rat :=
  j.rounded (now + if j.cost node < 0 then 0 else j.cost node)

/-- The time left until the limit. -/
def left (j : Journey) (now limit : Rat) : Rat := j.rounded (limit - now)

/-- Spends the cost of an expansion; false when the time does not last. An expansion that ends
exactly at the deadline counts as completed: only one that would end behind it is cut off there. -/
def spend (j : Journey) (t : Traveller) (node : String) : Traveller × Bool :=
  let arrival := j.arrival t.now node
  match j.timeout with
  | some limit =>
    let latest := j.rounded (t.now + j.left t.now limit)
    if latest < arrival then ({ t with now := latest }, false)
    else ({ t with now := arrival }, true)
  | none => ({ t with now := arrival }, true)

def isCancelled (j : Journey) (t : Traveller) : Bool :=
  t.cancelled || j.cancelTime.any (· ≤ t.now)

/-- The end of the walk, or the traveller behind one more expansion. -/
def advance (j : Journey) (t : Traveller) : Traveller × Option Ending :=
  match t.walk.next? with
  | none => (t, some (.stopped .exhausted))
  | some (node, walk) =>
    if j.isCancelled t then (t, some (.stopped .cancelled))
    else if j.timeout.any (j.left t.now · ≤ 0) then (t, some (.stopped .timedOut))
    else
      let t := { t with walk, cancelled := j.cancelAt == some node }
      match j.spend t node with
      | (t, false) => (t, some (.stopped .timedOut))
      | (t, true) =>
        if j.givesUp node then (t, some (.stopped .timedOut))
        else if j.fails node then (t, some (.failed node (walk.depth node)))
        else match walk.absorb j.bounds node (j.nextOf node) with
          | (walk, true) => ({ t with walk }, some (.stopped .truncated))
          | (walk, false) => ({ t with walk }, none)

/-- One turn: the end of the walk, or the traveller behind one more expansion and its report. -/
def turn (j : Journey) (t : Traveller) : Traveller × Option Ending :=
  match j.advance t with
  | (t, some e) => (t, some e)
  | (t, none) => (j.report t, none)

/-- At most `fuel` turns. -/
def travel (j : Journey) : Nat → Traveller → Traveller × Ending
  | 0, t => (t, .stopped .exhausted)
  | fuel + 1, t =>
    match j.turn t with
    | (t, some e) => (t, e)
    | (t, none) => j.travel fuel t

/-- All nodes that a walk can meet, with repetitions. -/
def reachable (j : Journey) : List String :=
  j.start :: j.neighbours.values.flatten

/-- The walk to its end: every node is expanded at most once. -/
def run (j : Journey) : Traveller × Ending := j.travel (j.reachable.length + 1) j.setOut

end Journey

end Coselect.Graph
