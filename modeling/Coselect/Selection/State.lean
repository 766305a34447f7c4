import Coselect.Selection.Record

/-! The selection: the records of all selected files, what each root contributes, and the
graph last applied for it. -/

namespace Coselect.Selection

open Coselect.Graph

structure State where
  records : Table String Record := .empty
  contributions : Table String Contribution := .empty
  graphs : Table String DependencyGraph := .empty

namespace State

def roots (s : State) : List String := s.contributions.keys

def active (s : State) : List String := s.records.keys

def snapshot (s : State) : Json :=
  .obj ((sorted s.records).map fun (p, r) => (p, r.toJson))

/-- What some roots say about a file. -/
def claims (s : State) (roots : List String) (path : String) : List Claim :=
  roots.filterMap fun root => (s.contributions.get? root).bind (·.get? path)

def leastDepth : List Claim → Nat → Nat
  | [], d => d
  | c :: cs, d => leastDepth cs (min c.depth d)

/-- The record with depth and kind as its roots now say; unchanged if none says anything. -/
def refresh (s : State) (path : String) (r : Record) : Record :=
  match s.claims r.selectedBy path with
  | [] => r
  | c :: cs =>
    { r with depth := leastDepth cs c.depth
             kind := if (c :: cs).any (·.kind == .autoDependency) then .autoDependency
               else .autoTest }

/-- Lets a root select a file. -/
def claim (s : State) (u : Update) (root path : String) (c : Claim) : State × Update :=
  match s.records.get? path with
  | none =>
    let r : Record := ⟨[root], c.depth, c.kind⟩
    ({ s with records := s.records.insert path r },
      { u with added := u.added.insert path, metadata := u.metadata.insert path r })
  | some r =>
    let r := s.refresh path { r with selectedBy := r.selectedBy.insert root }
    ({ s with records := s.records.insert path r },
      { u with metadata := u.metadata.insert path r })

/-- Takes a root's selection of a file back; without another root the file is removed. -/
def release (s : State) (u : Update) (root path : String) : State × Update :=
  match s.records.get? path with
  | none => (s, u)
  | some r =>
    if r.selectedBy.contains root then
      let r := { r with selectedBy := r.selectedBy.filter (· ≠ root) }
      if r.selectedBy.isEmpty then
        ({ s with records := s.records.erase path },
          { removed := u.removed.insert path, added := u.added.filter (· ≠ path)
            metadata := u.metadata.insert path r })
      else
        let r := s.refresh path r
        ({ s with records := s.records.insert path r },
          { u with metadata := u.metadata.insert path r })
    else (s, u)

end State

end Coselect.Selection
