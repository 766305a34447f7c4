import Coselect.Proofs.Graph.Cycles
import Coselect.Proofs.Graph.Absorb

/-! Two walks over the same graph, one under tighter bounds. They expand the same nodes and
find the same cycles as long as both go on. The one under tighter bounds may have discovered
less; then it never discovers anything again, and what it left out are dead ends to the other
one, which has not expanded them either. -/

namespace Coselect.Graph

/-- Bounds of which neither is looser. -/
structure Bounds.Tighter (b b' : Bounds) : Prop where
  maxDepth : ∀ m', b'.maxDepth = some m' → ∃ m, b.maxDepth = some m ∧ m ≤ m'
  maxNodes : ∀ m', b'.maxNodes = some m' → ∃ m, b.maxNodes = some m ∧ m ≤ m'

namespace Bounds.Tighter

variable {b b' : Bounds} {k : Nat}

theorem endsAt (h : b.Tighter b') (he : b'.EndsAt k) : b.EndsAt k := by
  obtain ⟨m', hm', hle'⟩ := he
  obtain ⟨m, hm, hle⟩ := h.maxDepth m' hm'
  exact ⟨m, hm, Nat.le_trans hle hle'⟩

theorem fullAt (h : b.Tighter b') (hf : b'.FullAt k) : b.FullAt k := by
  obtain ⟨m', hm', hle'⟩ := hf
  obtain ⟨m, hm, hle⟩ := h.maxNodes m' hm'
  exact ⟨m, hm, Nat.le_trans hle hle'⟩

end Bounds.Tighter

namespace Walk

variable {b b' : Bounds} {root node n u : String} {next : String → List String} {full full' : Bool}
  {w w' : Walk} {dep : Nat} {behind : Prop}

/-- A walk and one that may be ahead of it; `behind` tells why. -/
structure InStep (behind : Prop) (w w' : Walk) : Prop where
  expanded : w'.expanded = w.expanded
  entries : w.depths.entries <+: w'.depths.entries
  traced : w.detector.edges = w'.detector.edges.filter fun e => w.depths.contains e.2
  cycles : w.detector.cycles = w'.detector.cycles
  ahead : w'.depths.entries = w.depths.entries ∨ behind

namespace InStep

/-- A neighbour that only the walk ahead takes in. -/
theorem leftOut {behind' : Prop} {r : Walk × Bool} (h : InStep behind w w')
    (hs : ∀ e ∈ w'.detector.edges, e.1 ∈ w.depths.keys) (hnode : node ∈ w.depths.keys)
    (hn : n ∉ w.depths.keys) (hwhy : behind') (ht : TakesIn b' node dep w' full' n r) :
    InStep behind' w r.1 := by
  have hsource : ∀ e ∈ w'.detector.edges, w.depths.contains e.1 = true := fun e he =>
    Table.contains_iff_mem_keys.2 (hs e he)
  have hdeadEnd : w.depths.contains n = false := by
    rw [← Bool.not_eq_true, Table.contains_iff_mem_keys]
    exact hn
  have hdead := CycleDetector.addEdge_of_dead h.traced h.cycles hsource
    (Table.contains_iff_mem_keys.2 hnode) hdeadEnd
  cases ht with
  | known => exact ⟨h.expanded, h.entries, hdead.1, hdead.2, .inr hwhy⟩
  | tooDeep | tooMany => exact ⟨h.expanded, h.entries, h.traced, h.cycles, .inr hwhy⟩
  | discovered hn' =>
    refine ⟨h.expanded, ?_, hdead.1, hdead.2, .inr hwhy⟩
    rw [depths_record, entries_discover hn']
    exact h.entries.trans (List.prefix_append _ _)

/-- A neighbour that both walks know. -/
theorem known (h : InStep behind w w') (hs : ∀ e ∈ w'.detector.edges, e.1 ∈ w.depths.keys)
    (hnode : node ∈ w.depths.keys) (hn : n ∈ w.depths.keys) :
    InStep behind (w.record node n) (w'.record node n) := by
  have hboth := CycleDetector.addEdge_of_alive h.traced h.cycles
    (fun e he => Table.contains_iff_mem_keys.2 (hs e he)) (Table.contains_iff_mem_keys.2 hnode)
    (Table.contains_iff_mem_keys.2 hn)
  exact ⟨h.expanded, h.entries, hboth.1, hboth.2, h.ahead⟩

/-- A neighbour that both walks discover, neither of them ahead. -/
theorem discovered {behind' : Prop} (dep : Nat) (h : InStep behind w w')
    (heq : w'.depths.entries = w.depths.entries)
    (hs : ∀ e ∈ w'.detector.edges, e.1 ∈ w.depths.keys ∧ e.2 ∈ w.depths.keys)
    (hnode : node ∈ w.depths.keys) (hn : n ∉ w.depths.keys) (hn' : n ∉ w'.depths.keys) :
    InStep behind' ((w.discover dep n).record node n) ((w'.discover dep n).record node n) := by
  have hall : ∀ e ∈ w'.detector.edges, w.depths.contains e.2 = true ∧
      (w.discover dep n).depths.contains e.2 = true := by
    intro e he
    simp only [Table.contains_iff_mem_keys, mem_keys_discover hn]
    exact ⟨(hs e he).2, .inl (hs e he).2⟩
  have htraced : (w.discover dep n).detector.edges = (w'.discover dep n).detector.edges.filter
      fun e => (w.discover dep n).depths.contains e.2 := by
    change w.detector.edges = w'.detector.edges.filter _
    rw [h.traced]
    exact List.filter_congr fun e he => (hall e he).1.trans (hall e he).2.symm
  have hboth := CycleDetector.addEdge_of_alive htraced h.cycles
    (fun e he => Table.contains_iff_mem_keys.2 ((mem_keys_discover hn).2 (.inl (hs e he).1)))
    (Table.contains_iff_mem_keys.2 ((mem_keys_discover hn).2 (.inl hnode)))
    (Table.contains_iff_mem_keys.2 ((mem_keys_discover hn).2 (.inr rfl)))
  have hentries : ((w'.discover dep n).record node n).depths.entries =
      ((w.discover dep n).record node n).depths.entries := by
    rw [depths_record, depths_record, entries_discover hn, entries_discover hn', heq]
  exact ⟨h.expanded, hentries ▸ List.prefix_rfl, hboth.1, hboth.2, .inl hentries⟩

/-- Why a walk may be behind another one while it takes in the neighbours of a node. -/
def Excused (b : Bounds) (dep : Nat) (full : Bool) (w : Walk) : Prop :=
  b.EndsAt dep ∨ full = true ∧ b.FullAt w.depths.size

/-- One neighbour, taken in by both walks. The one under looser bounds hits the ceiling only
where the other one does, or has nothing to discover any more. -/
theorem takeIn {r r' : Walk × Bool} (hb : b.Tighter b') (h : InStep (Excused b dep full w) w w')
    (hs : ∀ e ∈ w'.detector.edges, e.1 ∈ w.depths.keys ∧ e.2 ∈ w'.depths.keys)
    (hnode : node ∈ w.depths.keys) (ht : TakesIn b node dep w full n r)
    (ht' : TakesIn b' node dep w' full' n r') :
    InStep (Excused b dep r.2 r.1) r.1 r'.1 ∧
      (r'.2 = true → full' = true ∨ r.2 = true ∨ b.EndsAt dep) := by
  have hsource : ∀ e ∈ w'.detector.edges, e.1 ∈ w.depths.keys := fun e he => (hs e he).1
  cases ht with
  | known hn =>
    have hk := h.known hsource hnode hn
    cases ht' with
    | known => exact ⟨hk, Or.inl⟩
    | tooDeep hn' | tooMany hn' | discovered hn' => exact absurd (mem_keys_of_entries h.entries hn) hn'
  | tooDeep hn hends =>
    exact ⟨h.leftOut hsource hnode hn (.inl hends) ht', fun _ => .inr (.inr hends)⟩
  | tooMany hn hends hmany =>
    exact ⟨h.leftOut hsource hnode hn (.inr ⟨rfl, hmany⟩) ht', fun _ => .inr (.inl rfl)⟩
  | discovered hn hends hmany =>
    have heq : w'.depths.entries = w.depths.entries := by
      rcases h.ahead with heq | hends' | ⟨-, hmany'⟩
      · exact heq
      · exact absurd hends' hends
      · exact absurd hmany' hmany
    have hkeys : w'.depths.keys = w.depths.keys := congrArg (List.map Prod.fst) heq
    have hsize : w'.depths.size = w.depths.size := congrArg List.length heq
    cases ht' with
    | known hn' => exact absurd (hkeys ▸ hn') hn
    | tooDeep _ hends' => exact absurd (hb.endsAt hends') hends
    | tooMany _ _ hmany' => exact absurd (hsize ▸ hb.fullAt hmany') hmany
    | discovered hn' =>
      exact ⟨h.discovered dep heq (fun e he => hkeys ▸ hs e he) hnode hn hn', Or.inl⟩

/-- The ceiling, once hit, stays hit. -/
theorem full_foldl_takeIn (ns : List String) :
    full = true → (ns.foldl (Walk.takeIn b node dep) (w, full)).2 = true := by
  induction ns generalizing w full with
  | nil => exact id
  | cons n ns ih =>
    intro hf
    have ht := takesIn b node dep w full n
    rw [List.foldl_cons]
    generalize Walk.takeIn b node dep (w, full) n = r at ht
    obtain ⟨w₁, full₁⟩ := r
    refine ih ?_
    cases ht <;> first | exact hf | rfl

theorem foldl_takeIn (hb : b.Tighter b') (h : InStep (Excused b (w.depth node) full w) w w')
    (hw : Sound b root next full w) (hw' : Sound b' root next full' w') (hd : w.Deepest node)
    (ns : List String) :
    let r := ns.foldl (Walk.takeIn b node (w.depth node)) (w, full)
    let r' := ns.foldl (Walk.takeIn b' node (w'.depth node)) (w', full')
    InStep (Excused b (w.depth node) r.2 r.1) r.1 r'.1 ∧
      (r'.2 = true → full' = true ∨ r.2 = true ∨ b.EndsAt (w.depth node)) := by
  induction ns generalizing next full full' w w' with
  | nil => exact ⟨h, Or.inl⟩
  | cons n ns ih =>
    have hnode : node ∈ w.depths.keys := hw.mem_keys hd.1
    have hdepth : w'.depth node = w.depth node := depth_of_entries h.entries hnode
    have hd' : w'.Deepest node := by
      refine ⟨h.expanded ▸ hd.1, fun u hu => ?_⟩
      rw [h.expanded] at hu
      rw [hdepth, depth_of_entries h.entries (hw.mem_keys hu)]
      exact hd.2 u hu
    have hs : ∀ e ∈ w'.detector.edges, e.1 ∈ w.depths.keys ∧ e.2 ∈ w'.depths.keys := by
      intro e he
      obtain ⟨hu, -, hv⟩ := (hw'.edges _ _).1 ((hw'.traced e.1 e.2).1 he)
      exact ⟨hw.mem_keys (h.expanded ▸ hu), hv⟩
    have ht := takesIn b node (w.depth node) w full n
    have ht' := takesIn b' node (w'.depth node) w' full' n
    have hg := Grows.takeIn ht
    have hg' := Grows.takeIn ht'
    have hw₁ := hw.takeIn hd ht
    have hw₁' := hw'.takeIn hd' ht'
    have hd₁ := hg.deepest (fun u hu => hw.mem_keys hu) hd
    have hdepth₁ := hg.depth node hnode
    have hdepth₁' := hg'.depth node (hw'.mem_keys hd'.1)
    rw [List.foldl_cons, List.foldl_cons]
    generalize Walk.takeIn b node (w.depth node) (w, full) n = r at *
    generalize Walk.takeIn b' node (w'.depth node) (w', full') n = r' at *
    obtain ⟨w₁, full₁⟩ := r
    obtain ⟨w₁', full₁'⟩ := r'
    rw [hdepth] at ht'
    obtain ⟨hstep, hfull⟩ := h.takeIn hb hs hnode ht ht'
    dsimp only at hdepth₁ hdepth₁' hstep hfull hw₁ hw₁' hd₁
    rw [← hdepth₁] at hstep
    obtain ⟨hrest, hrest'⟩ := ih hstep hw₁ hw₁' hd₁
    rw [hdepth₁, hdepth₁'] at hrest hrest'
    refine ⟨hrest, fun hf => ?_⟩
    rcases hrest' hf with hf₁ | hr | hends
    · rcases hfull hf₁ with hf' | hf' | hends
      · exact .inl hf'
      · exact .inr (.inl (full_foldl_takeIn ns hf'))
      · exact .inr (.inr hends)
    · exact .inr (.inl hr)
    · exact .inr (.inr hends)

/-- An expansion of the same node by both walks. -/
theorem absorb (hb : b.Tighter b') (h : InStep (b.EndsAt (w.depth node)) w w')
    (hw : Sound b root next false w) (hw' : Sound b' root next false w')
    (hk : w.depths.keys = w.expanded ++ node :: w.queue)
    (hk' : w'.depths.keys = w'.expanded ++ node :: w'.queue) (ns : List String) :
    InStep (Excused b (w.depth node) (w.absorb b node ns).2 (w.absorb b node ns).1)
        (w.absorb b node ns).1 (w'.absorb b' node ns).1 ∧
      ((w'.absorb b' node ns).2 = true → (w.absorb b node ns).2 = true ∨ b.EndsAt (w.depth node)) := by
  obtain ⟨hs, hd, -⟩ := hw.enter hk
  obtain ⟨hs', -, -⟩ := hw'.enter hk'
  have hstart : InStep (Excused b (w.depth node) false { w with expanded := w.expanded ++ [node] })
      { w with expanded := w.expanded ++ [node] } { w' with expanded := w'.expanded ++ [node] } :=
    ⟨by rw [h.expanded], h.entries, h.traced, h.cycles, h.ahead.imp_right Or.inl⟩
  obtain ⟨hstep, hfull⟩ := hstart.foldl_takeIn hb hs hs' hd ns
  exact ⟨hstep, fun hf => (hfull hf).resolve_left (by simp)⟩

end InStep

end Walk

end Coselect.Graph
