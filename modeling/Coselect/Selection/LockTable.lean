import Coselect.Selection.KeyedLock

/-! The locks below the queues of a keyed lock. They are made on demand: one table leads from a
key to its lock, another counts the visits of the key under way, and both forget the key when the
last visit ends. A lock only knows whether it is taken and who waits for it. Nothing comes between
what a task does from one of its waits to the next, so that this is one act. -/

namespace Coselect.Selection

/-- How a place in the line of a lock stands: its task waits, was called, was cancelled after the
call and before it went on, or was cancelled while it waited. -/
inductive Ticket where
  | waiting | called | stopped | cancelled
  deriving DecidableEq, Repr

namespace Ticket

/-- The task still wants the lock. -/
def wanted : Ticket → Bool
  | waiting | called => true
  | stopped | cancelled => false

def cancel : Ticket → Ticket
  | waiting => cancelled
  | called => stopped
  | ticket => ticket

end Ticket

/-- A lock with the line of the visits that wait for it. -/
structure Lock where
  taken : Bool := false
  line : List (Nat × Ticket) := []
  deriving DecidableEq, Repr

namespace Lock

/-- Whoever asks for the lock now gets it at once: it is not taken, and the places in the line
are all cancelled. -/
def isFree (l : Lock) : Bool := !l.taken && l.line.all (·.2 == .cancelled)

/-- Calls the first of the line, unless that is done or it was cancelled. -/
def callFirst (l : Lock) : Lock :=
  match l.line with
  | (n, .waiting) :: line => { l with line := (n, .called) :: line }
  | _ => l

def ticket? (l : Lock) (n : Nat) : Option Ticket := Table.lookup n l.line

def join (l : Lock) (n : Nat) : Lock := { l with line := l.line ++ [(n, .waiting)] }

def drop (l : Lock) (n : Nat) : Lock := { l with line := l.line.filter (·.1 ≠ n) }

def cancel (l : Lock) (n : Nat) : Lock :=
  { l with line := l.line.map fun p => if p.1 = n then (n, p.2.cancel) else p }

/-- One who was called takes the lock. -/
def take (l : Lock) (n : Nat) : Lock := { l.drop n with taken := true }

/-- One who was cancelled leaves the line, and calls the next unless the lock is taken. -/
def giveUp (l : Lock) (n : Nat) : Lock := if l.taken then l.drop n else (l.drop n).callFirst

def release (l : Lock) : Lock := { l with taken := false }.callFirst

end Lock

/-- A visit under way: its number among all requests, its key, the lock it came to and whether it
is past that lock. -/
structure Visit where
  number : Nat
  key : String
  lock : Nat
  inside : Bool
  deriving DecidableEq, Repr

/-- The visits after one of them got past its lock. -/
def passed (vs : List Visit) (v : Visit) : List Visit :=
  vs.map fun w => if w = v then { v with inside := true } else w

/-- The locks by key, the counts of visits by key, the locks by number, the visits under way in
the order of their requests, and how many requests there were. A lock has the number of the request
that made it. -/
structure LockTable where
  lockOf : Table String Nat := .empty
  counts : Table String Int := .empty
  locks : Table Nat Lock := .empty
  visits : List Visit := []
  requests : Nat := 0

/-- What a task can do: ask for a key, go on after it was called or cancelled, be cancelled, and
leave, be it because its body is done or because it raises. -/
inductive Act where
  | request (key : String)
  | goOn (visit : Nat)
  | cancel (visit : Nat)
  | leave (visit : Nat)
  deriving DecidableEq, Repr

/-- A key without an entry is looked up, or a lock is released that is not taken. -/
inductive Mishap where
  | noEntry | notTaken
  deriving DecidableEq, Repr

namespace LockTable

def lock (s : LockTable) (k : Nat) : Lock := (s.locks.get? k).getD {}

def setLock (s : LockTable) (k : Nat) (l : Lock) : LockTable := { s with locks := s.locks.insert k l }

def visit? (s : LockTable) (n : Nat) : Option Visit := s.visits.find? (·.number = n)

/-- The lock of a key and its number; a key without an entry gets a new lock. -/
def lockFor (s : LockTable) (key : String) : Nat × Lock :=
  match s.lockOf.get? key with
  | some k => (k, s.lock k)
  | none => (s.requests, {})

def request (s : LockTable) (key : String) : LockTable :=
  let (k, l) := s.lockFor key
  { lockOf := s.lockOf.insert key k
    counts := s.counts.insert key ((s.counts.get? key).getD 0 + 1)
    locks := s.locks.insert k (if l.isFree then { l with taken := true } else l.join s.requests)
    visits := s.visits ++ [⟨s.requests, key, k, l.isFree⟩]
    requests := s.requests + 1 }

def enter (s : LockTable) (v : Visit) : LockTable :=
  { s.setLock v.lock ((s.lock v.lock).take v.number) with visits := passed s.visits v }

/-- Counts one visit less at a key. With the last one the entries of the key go. -/
def uncount (s : LockTable) (key : String) : Except Mishap LockTable :=
  match s.counts.get? key with
  | none => .error .noEntry
  | some count =>
    if count - 1 ≠ 0 then .ok { s with counts := s.counts.insert key (count - 1) }
    else if s.lockOf.contains key then
      .ok { s with counts := s.counts.erase key, lockOf := s.lockOf.erase key }
    else .error .noEntry

def depart (s : LockTable) (v : Visit) : Except Mishap LockTable :=
  { s with visits := s.visits.erase v }.uncount v.key

def giveUp (s : LockTable) (v : Visit) : Except Mishap LockTable :=
  (s.setLock v.lock ((s.lock v.lock).giveUp v.number)).depart v

def leave (s : LockTable) (v : Visit) : Except Mishap LockTable :=
  if (s.lock v.lock).taken then (s.setLock v.lock (s.lock v.lock).release).depart v
  else .error .notTaken

/-- The table after an act, and the key and the number of the visit that got inside by it. A task
that cannot act so where it stands does nothing. -/
def perform (s : LockTable) : Act → Except Mishap (Option (String × Nat) × LockTable)
  | .request key =>
    .ok (if (s.lockFor key).2.isFree then some (key, s.requests) else none, s.request key)
  | .goOn n =>
    match s.visit? n with
    | none => .ok (none, s)
    | some v =>
      match (s.lock v.lock).ticket? n with
      | some .called => .ok (some (v.key, n), s.enter v)
      | some .stopped | some .cancelled => (s.giveUp v).map (none, ·)
      | some .waiting | none => .ok (none, s)
  | .cancel n =>
    match s.visit? n with
    | none => .ok (none, s)
    | some v => .ok (none, s.setLock v.lock ((s.lock v.lock).cancel n))
  | .leave n =>
    match s.visit? n with
    | none => .ok (none, s)
    | some v => if v.inside then (s.leave v).map (none, ·) else .ok (none, s)

/-- What an act means for the queues: a visit that is cancelled while it waits, or leaves its body,
leaves its queue. -/
def report (s : LockTable) (queues : KeyedLock) : Act → KeyedLock
  | .request key => queues.request key s.requests
  | .goOn _ => queues
  | .cancel n =>
    match s.visit? n with
    | some v => if v.inside then queues else queues.leave v.key n
    | none => queues
  | .leave n =>
    match s.visit? n with
    | some v => if v.inside then queues.leave v.key n else queues
    | none => queues

end LockTable

/-- A table of locks, the visits that got inside so far, in their order, and the queues that were
told of the same acts. -/
structure Traced where
  table : LockTable := {}
  entered : List (String × Nat) := []
  queues : KeyedLock := {}

namespace Traced

def advance (t : Traced) (act : Act) : Except Mishap Traced :=
  (t.table.perform act).map fun (got, table) =>
    ⟨table, t.entered ++ got.toList, t.table.report t.queues act⟩

def run (acts : List Act) : Except Mishap Traced := acts.foldlM advance {}

end Traced

end Coselect.Selection
