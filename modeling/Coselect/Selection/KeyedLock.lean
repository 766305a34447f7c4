import Coselect.Table

/-! One lock per key. Those who asked for a key stand in a queue in the order of their
requests; the first of them holds it. A key that nobody holds or awaits has no entry. -/

namespace Coselect.Selection

/-- The queues of a lock; the numbers are those of the tasks in them. -/
structure KeyedLock where
  queues : Table String (List Nat) := .empty

namespace KeyedLock

def queue (l : KeyedLock) (key : String) : List Nat := (l.queues.get? key).getD []

def setQueue (l : KeyedLock) (key : String) (q : List Nat) : KeyedLock :=
  ⟨if q.isEmpty then l.queues.erase key else l.queues.insert key q⟩

def request (l : KeyedLock) (key : String) (task : Nat) : KeyedLock :=
  l.setQueue key (l.queue key ++ [task])

def holder? (l : KeyedLock) (key : String) : Option Nat := (l.queue key).head?

def holds (l : KeyedLock) (key : String) (task : Nat) : Bool := l.holder? key == some task

/-- A task gives up its place, whether it holds the key or waits for it. -/
def leave (l : KeyedLock) (key : String) (task : Nat) : KeyedLock :=
  l.setQueue key ((l.queue key).erase task)

/-- How many keys are held or awaited. -/
def size (l : KeyedLock) : Nat := l.queues.size

end KeyedLock

end Coselect.Selection
