import Coselect.Proofs.Graph.Sound

/-! A whole expansion, neighbour by neighbour: it keeps what a walk knows, takes in all
neighbours, and only adds to what was discovered. -/

namespace Coselect.Graph.Walk

variable {b : Bounds} {root node n u v : String} {next : String → List String} {full : Bool}
  {w : Walk} {dep : Nat}

/-- What one neighbour leaves as it is. -/
structure Grows (w w' : Walk) : Prop where
  expanded : w'.expanded = w.expanded
  entries : w.depths.entries <+: w'.depths.entries
  depth : ∀ u ∈ w.depths.keys, w'.depth u = w.depth u
  cycles : w.detector.cycles <+: w'.detector.cycles
  ready : w.Ready → w'.Ready

namespace Grows

theorem refl (w : Walk) : Grows w w := ⟨rfl, List.prefix_rfl, fun _ _ => rfl, List.prefix_rfl, id⟩

theorem keys {w' : Walk} (h : Grows w w') : w.depths.keys <+: w'.depths.keys := h.entries.map _

theorem trans {w' w'' : Walk} (h : Grows w w') (h' : Grows w' w'') : Grows w w'' where
  expanded := h'.expanded.trans h.expanded
  entries := h.entries.trans h'.entries
  depth u hu := (h'.depth u (h.keys.subset hu)).trans (h.depth u hu)
  cycles := h.cycles.trans h'.cycles
  ready hr := h'.ready (h.ready hr)

theorem deepest {w' : Walk} (h : Grows w w') (hk : ∀ u ∈ w.expanded, u ∈ w.depths.keys)
    (hd : w.Deepest node) : w'.Deepest node := by
  refine ⟨by rw [h.expanded]; exact hd.1, fun u hu => ?_⟩
  rw [h.expanded] at hu
  rw [h.depth u (hk u hu), h.depth node (hk node hd.1)]
  exact hd.2 u hu

theorem takeIn {r : Walk × Bool} (ht : TakesIn b node dep w full n r) : Grows w r.1 := by
  cases ht with
  | known => exact ⟨rfl, List.prefix_rfl, fun _ _ => rfl, CycleDetector.cycles_addEdge .., id⟩
  | tooDeep | tooMany => exact refl w
  | discovered hn =>
    refine ⟨rfl, ?_, fun u hu => depth_discover_of_mem hn hu, CycleDetector.cycles_addEdge ..,
      fun hr => ?_⟩
    · rw [depths_record, entries_discover hn]
      exact List.prefix_append _ _
    · unfold Ready at hr ⊢
      rw [depths_record, keys_discover hn, hr]
      simp [record, discover]

end Grows

namespace Sound

theorem foldl_takeIn (h : Sound b root next full w) (hd : w.Deepest node) (ns : List String) :
    let r := ns.foldl (Walk.takeIn b node (w.depth node)) (w, full)
    Sound b root (Function.update next node (next node ++ ns)) r.2 r.1 ∧ Grows w r.1 := by
  induction ns generalizing next full w with
  | nil => simpa using ⟨h, Grows.refl w⟩
  | cons n ns ih =>
    have ht := takesIn b node (w.depth node) w full n
    have hg := Grows.takeIn ht
    have hnode := hg.depth node (h.mem_keys hd.1)
    obtain ⟨hsound, hgrows⟩ := ih (h.takeIn hd ht) (hg.deepest (fun u hu => h.mem_keys hu) hd)
    simp only [noting, Function.update_self, Function.update_idem, List.append_assoc,
      List.singleton_append] at hsound
    rw [List.foldl_cons]
    rw [hnode] at hsound hgrows
    exact ⟨hsound, hg.trans hgrows⟩

/-- The walk with its next node among those expanded. -/
theorem enter (h : Sound b root next false w) (hk : w.depths.keys = w.expanded ++ node :: w.queue) :
    let w' := { w with expanded := w.expanded ++ [node] }
    Sound b root (Function.update next node []) false w' ∧ w'.Deepest node ∧ w'.Ready := by
  have hnodup := w.depths.nodup_keys
  change w.depths.keys.Nodup at hnodup
  rw [hk] at hnodup
  have hnode : node ∉ w.expanded := fun hm =>
    (List.disjoint_of_nodup_append hnodup) hm List.mem_cons_self
  have hsorted := h.sorted
  rw [hk] at hsorted
  have hnext : ∀ u ∈ w.expanded, Function.update next node [] u = next u := by
    intro u hu
    have hne : u ≠ node := fun e => hnode (e ▸ hu)
    rw [Function.update_of_ne hne]
  have hready : Ready { w with expanded := w.expanded ++ [node] } := by
    simp [Ready, hk]
  refine ⟨?_, ⟨by simp, fun u hu => ?_⟩, hready⟩
  · constructor
    case expanded => exact ⟨w.queue, hready.symm⟩
    case atRoot => exact h.atRoot
    case sorted => exact h.sorted
    case edges =>
      intro u v
      change v ∈ w.edges.next u ↔ u ∈ w.expanded ++ [node] ∧ _ ∧ v ∈ w.depths.keys
      rw [h.edges, List.mem_append, List.mem_singleton]
      constructor
      · rintro ⟨hu, hv, hk⟩
        exact ⟨.inl hu, by rwa [hnext u hu], hk⟩
      · rintro ⟨hu | rfl, hv, hk⟩
        · exact ⟨hu, by rwa [hnext u hu] at hv, hk⟩
        · simp at hv
    case parent => exact h.parent
    case shallow => exact h.shallow
    case deep => exact h.deep
    case size => exact h.size
    case missing =>
      intro u hu v hv hk
      rcases List.mem_append.1 hu with hu | hu
      · rw [hnext u hu] at hv
        exact h.missing u hu v hv hk
      · obtain rfl := List.mem_singleton.1 hu
        simp at hv
    case ceiling => exact fun hf => absurd hf (by simp)
    case traced => exact h.traced
  · rcases List.mem_append.1 hu with hu | hu
    · exact (List.pairwise_append.1 hsorted).2.2 u hu node List.mem_cons_self
    · exact Nat.le_of_eq (by rw [List.mem_singleton.1 hu])

/-- An expansion keeps what holds of a walk, and takes in all neighbours. -/
theorem absorb (h : Sound b root next false w) (hk : w.depths.keys = w.expanded ++ node :: w.queue)
    (ns : List String) :
    Sound b root (Function.update next node ns) (w.absorb b node ns).2 (w.absorb b node ns).1 ∧
      (w.absorb b node ns).1.Ready ∧
      (w.absorb b node ns).1.expanded = w.expanded ++ [node] ∧
      w.depths.entries <+: (w.absorb b node ns).1.depths.entries ∧
      w.detector.cycles <+: (w.absorb b node ns).1.detector.cycles := by
  obtain ⟨hs, hd, hr⟩ := h.enter hk
  obtain ⟨hsound, hgrows⟩ := hs.foldl_takeIn hd ns
  simp only [Function.update_self, List.nil_append, Function.update_idem] at hsound
  exact ⟨hsound, hgrows.ready hr, hgrows.expanded, hgrows.entries, hgrows.cycles⟩

theorem start (b : Bounds) (root : String) (next : String → List String) :
    Sound b root next false (Walk.start root) := by
  have hkeys : (Walk.start root).depths.keys = [root] := rfl
  have hnext : ∀ u, (Walk.start root).edges.next u = [] := fun _ => rfl
  have hdepth : (Walk.start root).depth root = 0 := by simp [Walk.start, depth]
  constructor
  case expanded => exact List.nil_prefix
  case atRoot => simp [Walk.start]
  case sorted => rw [hkeys]; exact List.pairwise_singleton _ _
  case edges => simp [Walk.start]
  case parent => simp [hkeys]
  case shallow => simp [hnext]
  case deep =>
    intro m _ v hv
    rw [hkeys, List.mem_singleton] at hv
    rw [hv, hdepth]
    exact Nat.zero_le m
  case size => exact fun m _ => Nat.le_max_left 1 m
  case missing => simp [Walk.start]
  case ceiling => simp
  case traced => simp [Walk.start]

end Sound

/-- What was discovered stays so, whatever is taken in. -/
theorem grows_absorb (b : Bounds) (w : Walk) (node : String) (ns : List String) :
    Grows { w with expanded := w.expanded ++ [node] } (w.absorb b node ns).1 := by
  have hfold : ∀ (ns : List String) (r : Walk × Bool),
      Grows r.1 (ns.foldl (takeIn b node (w.depth node)) r).1 := by
    intro ns
    induction ns with
    | nil => exact fun r => .refl r.1
    | cons n ns ih => exact fun r => (Grows.takeIn (takesIn b node _ r.1 r.2 n)).trans (ih _)
  exact hfold ns ({ w with expanded := w.expanded ++ [node] }, false)

/-- Below the depth limit an expansion discovers nothing. -/
theorem absorb_of_endsAt (w : Walk) (hends : b.EndsAt (w.depth node)) (ns : List String) :
    (w.absorb b node ns).1.depths = w.depths ∧ (w.absorb b node ns).1.queue = w.queue := by
  have hfold : ∀ (ns : List String) (s : Walk × Bool),
      (ns.foldl (takeIn b node (w.depth node)) s).1.depths = s.1.depths ∧
        (ns.foldl (takeIn b node (w.depth node)) s).1.queue = s.1.queue := by
    intro ns
    induction ns with
    | nil => exact fun s => ⟨rfl, rfl⟩
    | cons n ns ih =>
      intro s
      have ht := takesIn b node (w.depth node) s.1 s.2 n
      rw [List.foldl_cons]
      obtain ⟨hdepths, hqueue⟩ := ih (takeIn b node (w.depth node) s n)
      rw [hdepths, hqueue]
      generalize takeIn b node (w.depth node) s n = r at ht
      cases ht with
      | known | tooDeep => exact ⟨rfl, rfl⟩
      | tooMany _ hn | discovered _ hn => exact absurd hends hn
  exact hfold ns ({ w with expanded := w.expanded ++ [node] }, false)

theorem ready_start (root : String) : (Walk.start root).Ready := rfl

end Coselect.Graph.Walk
