import Coselect.Imports.Statement
import Coselect.Number.Shortest
import Coselect.Table

/-! The statements extracted from files, each with the file's stamp at that time. Entries
stand in the order of their last use. A lookup with another stamp drops the entry, and
storing a new path into a full cache first drops about a tenth of the entries, the
longest unused ones. -/

namespace Coselect.Imports

structure Cache (τ : Type) where
  entries : Table String (τ × List Statement)
  maxSize : Int
  hits : Nat
  misses : Nat

namespace Cache

variable {τ : Type} [DecidableEq τ]

def ofSize (maxSize : Int) : Cache τ := ⟨.empty, maxSize, 0, 0⟩

/-- The statements stored for a path with this stamp. -/
def find? (c : Cache τ) (path : String) (stamp : τ) : Option (List Statement) :=
  match c.entries.get? path with
  | some (stored, statements) => if stored = stamp then some statements else none
  | none => none

/-- The cache after a lookup. -/
def afterLookup (c : Cache τ) (path : String) (stamp : τ) : Cache τ :=
  match c.find? path stamp with
  | some statements =>
    { c with hits := c.hits + 1, entries := c.entries.insertLast path (stamp, statements) }
  | none => { c with misses := c.misses + 1, entries := c.entries.erase path }

/-- How many entries make room for a new one. -/
def evicted (c : Cache τ) : Nat := max 1 (c.maxSize / 10).toNat

/-- Stores statements under a path; fails when room is needed and there is nothing to
drop. -/
def store? (c : Cache τ) (path : String) (stamp : τ) (statements : List Statement) :
    Option (Cache τ) :=
  if c.entries.contains path || c.entries.size < c.maxSize then
    some { c with entries := c.entries.insertLast path (stamp, statements) }
  else if c.entries.size < c.evicted then none
  else some { c with entries := (c.entries.drop c.evicted).insertLast path (stamp, statements) }

/-- Stores statements when that is possible. -/
def store (c : Cache τ) (path : String) (stamp : τ) (statements : List Statement) : Cache τ :=
  (c.store? path stamp statements).getD c

def invalidate (c : Cache τ) (path : String) : Cache τ :=
  { c with entries := c.entries.erase path }

def clear (c : Cache τ) : Cache τ := { c with entries := .empty, hits := 0, misses := 0 }

/-- The share of lookups that hit. -/
def hitRatio (c : Cache τ) : Float :=
  if c.hits + c.misses = 0 then 0.0 else c.hits.toFloat / (c.hits + c.misses).toFloat

def stats (c : Cache τ) : Json :=
  .obj [("hits", .nat c.hits), ("misses", .nat c.misses), ("size", .nat c.entries.size),
    ("max_size", .int c.maxSize), ("hit_ratio", .str (Number.fixed 6 c.hitRatio))]

end Cache

end Coselect.Imports
