import Coselect.Selection.Service

/-! A service at work: with the disk it asks and the caches its analyses share. Requests run
one after the other, or side by side in turns, each up to the next place where it stands
still. -/

namespace Coselect.Selection

open Analysis Disk Coselect.Graph Settings

structure Site where
  service : Service
  caches : Caches
  disk : Volume := {}

/-- A request to the service. -/
inductive Request
  | select (root : String) (config : Option Config)
  | deselect (root : String)
  | analyze (root : String) (config : Option Config)

inductive Answer
  | update (u : Option Update)
  | graph (g : DependencyGraph)

namespace Site

/-- An inquiry run alone to its end. -/
def run (s : Site) (t : Inquiry α) (signal : List Query → Signal) : α × Site :=
  let (a, caches) := t.run s.disk signal [] s.caches
  (a, { s with caches })

def runAlone (s : Site) (t : Inquiry α) : α × Site := s.run t fun _ => {}

/-- What is left of a request: an analysis, for a request in flight or for itself, or its
answer. -/
inductive Running
  | selecting (root : String) (request : Nat) (t : Inquiry (Except Failure DependencyGraph))
  | analysing (t : Inquiry (Except Failure DependencyGraph))
  | answered (a : Except Failure Answer)

/-- Runs a request up to the next place where it stands still. -/
def advance (s : Site) : Running → Running × Site
  | .selecting root request t =>
    match t.settle (s.service.signal request) s.caches with
    | (.done r, caches) =>
      let (u, service) := s.service.finish root request r
      (.answered (u.map .update), { s with service, caches })
    | (t, caches) => (.selecting root request t, { s with caches })
  | .analysing t =>
    match t.settle {} s.caches with
    | (.done r, caches) => (.answered (r.map .graph), { s with caches })
    | (t, caches) => (.analysing t, { s with caches })
  | .answered a => (.answered a, s)

/-- Takes an inquiry up again, with the answer to the question it stands at. -/
def reply (s : Site) : Inquiry α → Inquiry α
  | .ask q k => k (s.disk.answer q)
  | .pause next => next
  | t => t

/-- Starts a request and runs it up to the first place where it stands still. -/
def start (s : Site) : Request → Running × Site
  | .select root config =>
    match s.service.configFor config with
    | .error f => (.answered (.error f), s)
    | .ok c =>
      let root := Path.normalize root
      let (request, service) := s.service.begin root
      ({ s with service } : Site).advance (.selecting root request (s.service.analysis root c).run)
  | .deselect root =>
    let (u, service) := s.service.deselect root
    (.answered (.ok (.update (some u))), { s with service })
  | .analyze root config => s.advance (.analysing (s.service.analyze root config).run)

/-- A turn of one request. -/
def turn (s : Site) : Running → Running × Site
  | .selecting root request t => s.advance (.selecting root request (s.reply t))
  | .analysing t => s.advance (.analysing (s.reply t))
  | r => (r, s)

def each (f : Site → α → β × Site) : Site → List α → List β × Site
  | s, [] => ([], s)
  | s, a :: as =>
    let (b, s) := f s a
    let (bs, s) := each f s as
    (b :: bs, s)

def answer? : Running → Option (Except Failure Answer)
  | .answered a => some a
  | _ => none

/-- Rounds of turns until all requests are answered, at most `fuel`. -/
def rounds : Nat → Site → List Running → List Running × Site
  | 0, s, rs => (rs, s)
  | fuel + 1, s, rs =>
    if rs.all fun r => (answer? r).isSome then (rs, s)
    else
      let (rs, s) := each turn s rs
      rounds fuel s rs

/-- More rounds than any analysis asks questions. -/
def maxRounds : Nat := 1000000000

/-- The answers of requests that are started in order and then take turns. -/
def together (s : Site) (rs : List Request) : List (Except Failure Answer) × Site :=
  let (rs, s) := each start s rs
  let (rs, s) := rounds maxRounds s rs
  (rs.filterMap answer?, s)

/-- The answer of one request on its own. -/
def handle (s : Site) (r : Request) : Except Failure Answer × Site :=
  match r with
  | .select root config =>
    match s.service.configFor config with
    | .error f => (.error f, s)
    | .ok c =>
      let root := Path.normalize root
      let (request, service) := s.service.begin root
      let (g, s) := ({ s with service } : Site).runAlone (s.service.analysis root c).run
      let (u, service) := s.service.finish root request g
      (u.map .update, { s with service })
  | .deselect root =>
    let (u, service) := s.service.deselect root
    (.ok (.update (some u)), { s with service })
  | .analyze root config =>
    let (g, s) := s.runAlone (s.service.analyze root config).run
    (g.map .graph, s)

/-- Drops what the analyses share. -/
def resetCaches (s : Site) : Site := { s with caches := s.caches.reset }

end Site

end Coselect.Selection
