import Coselect.Analysis.Analyze
import Coselect.Proofs.Analysis.Expand
import Coselect.Proofs.Graph.Absorb

/-! A survey turn by turn. The walk and the nodes are kept apart; a turn takes the same file into
both, so that the nodes say where the expanded files of the walk lead to. Each turn expands
one more file and there is only room for so many, so the fuel never runs out. -/

namespace Coselect.Analysis

open Disk Coselect.Graph Inquiry

variable {T : Terms} {w : Workspace} {p : Settings.Policy} {b : Bounds} {root path : String}
  {A : String → Prop} {B : String → String → Prop} {full : Bool} {s : Survey}

/-- Where the nodes expanded so far lead to. -/
def Survey.resolved (s : Survey) (path : String) : List String :=
  ((s.nodes.get? path).map (·.resolvedImports)).getD []

/-- What holds of a survey at any time: the nodes are those that the walk expanded. -/
structure Survey.Sound (b : Bounds) (root : String) (A : String → Prop) (B : String → String → Prop)
    (full : Bool) (s : Survey) : Prop where
  walk : s.walk.Sound b root s.resolved full
  known : ∀ path, path ∈ s.walk.expanded ↔ ∃ n, s.nodes.get? path = some n
  nodes : ∀ path n, s.nodes.get? path = some n → Expanded A B path (s.walk.depth path) n

namespace Survey.Sound

theorem start (b : Bounds) (root : String) (A : String → Prop) (B : String → String → Prop) :
    Survey.Sound b root A B false { walk := .start root } where
  walk := .start b root _
  known path := by simp [Walk.start]
  nodes path n hn := nomatch hn

theorem requeue (h : s.Sound b root A B full) (q : List String) (out : LeftOut) :
    Survey.Sound b root A B full { s with walk := { s.walk with queue := q }, leftOut := out } :=
  ⟨h.walk.requeue q, h.known, h.nodes⟩

/-- A turn of the survey. -/
theorem absorb (h : s.Sound b root A B false) {q : List String} (hr : s.walk.Ready)
    (hq : s.walk.queue = path :: q) {node : Node}
    (hn : Expanded A B path (s.walk.depth path) node) (out : LeftOut) :
    let r := Survey.absorb { s with walk := { s.walk with queue := q }, leftOut := out } b node
    r.1.Sound b root A B r.2 ∧ r.1.walk.Ready ∧
      r.1.walk.expanded.length = s.walk.expanded.length + 1 := by
  have hkeys : s.walk.depths.keys = s.walk.expanded ++ path :: q := by rw [hr, hq]
  have hpath : path ∈ s.walk.depths.keys := by simp [hkeys]
  obtain ⟨hwalk, hready, hexp, hentries, -⟩ :=
    (h.walk.requeue q).absorb hkeys node.resolvedImports
  rw [← hn.path] at hwalk hready hexp hentries
  intro r
  have hget : ∀ v, r.1.nodes.get? v = if node.path = v then some node else s.nodes.get? v := fun v =>
    Table.get?_insert ..
  have hresolved : r.1.resolved = Function.update s.resolved node.path node.resolvedImports := by
    funext v
    by_cases hv : v = node.path
    · simp [resolved, hget, hv]
    · simp [resolved, hget, hv, Ne.symm hv]
  refine ⟨⟨hresolved ▸ hwalk, fun v => ?_, fun v n hv => ?_⟩, hready, ?_⟩
  · change v ∈ (Walk.absorb b _ node.path node.resolvedImports).1.expanded ↔ _
    rw [hexp, hget, List.mem_append, List.mem_singleton, h.known]
    split
    next hv => simp [hv]
    next hv => simp [Ne.symm hv]
  · have hdepth : ∀ u ∈ s.walk.depths.keys, r.1.walk.depth u = s.walk.depth u := fun u hu =>
      Walk.depth_of_entries hentries hu
    rw [hget] at hv
    split at hv
    next hpv =>
      cases hv
      rw [← hpv, hn.path, hdepth path hpath]
      exact hn
    next =>
      rw [hdepth v (h.walk.mem_keys ((h.known v).2 ⟨n, hv⟩))]
      exact h.nodes v n hv
  · exact (congrArg List.length hexp).trans (by simp)

end Survey.Sound

/-- How a survey may end. -/
structure Surveyed (b : Bounds) (root : String) (A : String → Prop) (B : String → String → Prop)
    (r : Survey × StopReason) : Prop where
  sound : ∃ full, r.1.Sound b root A B full
  exhausted : r.2 = .exhausted → r.1.Sound b root A B false ∧ r.1.walk.depths.keys = r.1.walk.expanded

theorem Footing.leads_survey (h : Footing T w p.exclusions A) (ht : T.Lists w p B) (fuel : Nat)
    (hs : s.Sound b root A B false) (hr : s.walk.Ready)
    (hfuel : ∃ m, b.maxNodes = some m ∧ m + 2 ≤ s.walk.expanded.length + fuel) :
    (survey w p b fuel s).Leads T (Surveyed b root A B) := by
  induction fuel generalizing s with
  | zero =>
    obtain ⟨m, hm, hle⟩ := hfuel
    have hsize := hs.walk.size m hm
    have hlength := hs.walk.expanded.length_le
    simp only [Table.keys, List.length_map] at hlength
    simp only [Table.size] at hsize
    omega
  | succ fuel ih =>
    have hstopped : ∀ {full s reason}, Survey.Sound b root A B full s → reason ≠ .exhausted →
        Surveyed b root A B (s, reason) := fun hs hne => ⟨⟨_, hs⟩, fun heq => absurd heq hne⟩
    unfold survey
    cases hq : s.walk.queue with
    | nil =>
      simp only [Walk.next?, hq]
      exact ⟨⟨false, hs⟩, fun _ => ⟨hs, by rw [hr, hq, List.append_nil]⟩⟩
    | cons path q =>
      simp only [Walk.next?, hq]
      refine leads_signal.bind fun signal _ => ?_
      split
      next => exact hstopped hs (by decide)
      split
      next => exact hstopped hs (by decide)
      refine leads_yield.bind fun _ _ => ?_
      refine (h.leads_expand ht path _ s.leftOut).bind ?_
      rintro ⟨_ | node, out⟩ hn
      · exact hstopped (hs.requeue q out) (by decide)
      obtain ⟨hsound, hready, hlength⟩ := hs.absorb hr hq (hn node rfl) out
      dsimp only
      split
      next s' hfull =>
        rw [hfull] at hsound
        exact hstopped hsound (by decide)
      next s' hfull =>
        rw [hfull] at hsound hready hlength
        obtain ⟨m, hm, hle⟩ := hfuel
        refine ih hsound hready ⟨m, hm, ?_⟩
        dsimp only at hlength
        omega

end Coselect.Analysis
