import Coselect.Proofs.Analysis.Survey
import Coselect.Proofs.Graph.WellFormed

/-! The graph of an analysis is well-formed however the analysis came to its end, and the files
in it are not left out by the options it followed. -/

namespace Coselect.Analysis

open Disk Coselect.Graph Inquiry

variable {T : Terms} {e : Surroundings} {w : Workspace} {p : Settings.Policy} {b : Bounds}
  {root u v : String} {I : Caches → Prop} {A : String → Prop} {B : String → String → Prop} {full : Bool}
  {s : Survey} {reason : StopReason}
  {rootReason : Option ExcludeReason} {n : Node}

namespace Survey

theorem get?_nodes : (s.graph reason root rootReason).nodes.get? v =
    (s.walk.depths.get? v).map fun depth => selected root rootReason (s.node v depth) :=
  Table.get?_foldl_insert_entries (fun path depth => selected root rootReason (s.node path depth)) _ v

theorem mem_keys_nodes :
    v ∈ (s.graph reason root rootReason).nodes.keys ↔ v ∈ s.walk.depths.keys := by
  rw [Table.mem_keys_iff, get?_nodes, Option.isSome_map, Table.mem_keys_iff]

/-- A node of the graph is that of the file, but for what the selection says about it. -/
theorem exists_of_get?_nodes (h : (s.graph reason root rootReason).nodes.get? v = some n) :
    v ∈ s.walk.depths.keys ∧ ∃ kind excluded excludeReason,
      n = { s.node v (s.walk.depth v) with kind, excluded, excludeReason } := by
  rw [get?_nodes] at h
  obtain ⟨d, hd, rfl⟩ := Option.map_eq_some_iff.1 h
  have hdepth : s.walk.depth v = d := by rw [Walk.depth, hd, Option.getD_some]
  refine ⟨Table.mem_keys_iff.2 (by rw [hd]; rfl), ?_⟩
  rw [hdepth, selected]
  split
  next => exact ⟨_, _, _, rfl⟩
  next => exact ⟨_, _, _, rfl⟩

theorem get?_edges : (s.graph reason root rootReason).edges.get? u =
    if u ∈ s.walk.depths.keys then some (s.walk.edges.next u) else none :=
  Table.get?_foldl_insert s.walk.edges.next s.walk.depths.keys .empty u

theorem mem_keys_edges :
    v ∈ (s.graph reason root rootReason).edges.keys ↔ v ∈ s.walk.depths.keys := by
  rw [Table.mem_keys_iff, get?_edges]
  split <;> simp [*]

theorem mem_next_edges :
    v ∈ (s.graph reason root rootReason).edges.next u ↔
      u ∈ s.walk.depths.keys ∧ v ∈ s.walk.edges.next u := by
  rw [Adjacency.next, get?_edges]
  split <;> simp [*]

theorem not_mem_keys_of_mem_excluded (h : v ∈ (s.graph reason root rootReason).excluded.keys) :
    v ∉ (s.graph reason root rootReason).nodes.keys := by
  intro hv
  have hget : (s.graph reason root rootReason).excluded.get? v = none := by
    refine (Table.get?_keep _ _ v).trans (if_neg ?_)
    rw [Bool.not_eq_true', Bool.not_eq_false]
    exact Table.contains_iff_mem_keys.2 hv
  rw [Table.mem_keys_iff, hget] at h
  exact Bool.false_ne_true h

/-- What a node of the graph says about the walk. -/
structure Told (s : Survey) (v : String) (n : Node) : Prop where
  mem : v ∈ s.walk.depths.keys
  depth : n.depth = s.walk.depth v
  expanded : n.expanded = true ↔ v ∈ s.walk.expanded
  resolved : n.resolvedImports = s.resolved v
  bare : n.expanded = false ∨ n.error.isSome →
    n.rawImports = [] ∧ n.resolvedImports = [] ∧ n.testFiles = []

theorem Sound.told (h : s.Sound b root A B full)
    (hn : (s.graph reason root rootReason).nodes.get? v = some n) : s.Told v n := by
  obtain ⟨hv, kind, excluded, excludeReason, rfl⟩ := exists_of_get?_nodes hn
  by_cases hexp : v ∈ s.walk.expanded
  · obtain ⟨m, hm⟩ := (h.known v).1 hexp
    have hnode : s.node v (s.walk.depth v) = m := by simp [node, hm]
    have hfacts := h.nodes v m hm
    rw [hnode]
    refine ⟨hv, hfacts.depth, ⟨fun _ => hexp, fun _ => hfacts.expanded⟩, by simp [resolved, hm], ?_⟩
    rintro (hnot | hfailed)
    · simp [hfacts.expanded] at hnot
    · exact hfacts.failed hfailed
  · have hnone : s.nodes.get? v = none := by
      rw [Option.eq_none_iff_forall_ne_some]
      exact fun m hm => hexp ((h.known v).2 ⟨m, hm⟩)
    have hnode : s.node v (s.walk.depth v) = { path := v, depth := s.walk.depth v } := by
      simp [node, hnone]
    rw [hnode]
    exact ⟨hv, rfl, ⟨fun hfalse => absurd hfalse Bool.false_ne_true, fun hmem => absurd hmem hexp⟩,
      by simp [resolved, hnone], fun _ => ⟨rfl, rfl, rfl⟩⟩

theorem Sound.depthOf?_eq_some_iff (h : s.Sound b root A B full) {k : Nat} :
    (s.graph reason root rootReason).depthOf? v = some k ↔
      v ∈ s.walk.depths.keys ∧ k = s.walk.depth v := by
  unfold DependencyGraph.depthOf?
  constructor
  · intro hk
    obtain ⟨n, hn, rfl⟩ := Option.map_eq_some_iff.1 hk
    have ht := h.told hn
    exact ⟨ht.mem, ht.depth⟩
  · rintro ⟨hv, rfl⟩
    obtain ⟨n, hn⟩ := Option.isSome_iff_exists.1 (Table.mem_keys_iff.1 (mem_keys_nodes.2 hv))
    rw [hn, Option.map_some, (h.told hn).depth]

/-- A graph is well-formed wherever its survey stopped. -/
theorem wellFormed (h : Surveyed b root A B (s, reason)) :
    (s.graph reason root rootReason).WellFormed root b.maxDepth := by
  obtain ⟨⟨full, hs⟩, hexhausted⟩ := h
  have hw := hs.walk
  have hedge : ∀ {u v}, v ∈ (s.graph reason root rootReason).edges.next u ↔
      v ∈ s.walk.edges.next u := by
    intro u v
    rw [mem_next_edges]
    exact ⟨And.right, fun hv => ⟨(hw.mem_keys_of_edge hv).1, hv⟩⟩
  constructor
  case rooted =>
    rw [hs.depthOf?_eq_some_iff]
    exact ⟨Table.mem_keys_iff.2 (by simp [hw.atRoot]), by simp [Walk.depth, hw.atRoot]⟩
  case edgeKeys =>
    intro v
    rw [mem_keys_nodes, mem_keys_edges]
  case reverseKeys =>
    intro v
    refine DependencyGraph.mem_keys_reversed.trans ⟨?_, .inl⟩
    rintro (hv | ⟨u, hv⟩)
    · exact hv
    · exact mem_keys_nodes.2 (hw.mem_keys_of_edge (hedge.1 hv)).2
  case closed =>
    intro u v hv
    exact mem_keys_nodes.2 (hw.mem_keys_of_edge (hedge.1 hv)).2
  case inverse =>
    intro u v
    exact DependencyGraph.mem_next_reversed
  case linked =>
    intro u n hn hexp v
    have ht := hs.told hn
    rw [hedge, hw.edges, mem_keys_nodes, ht.resolved]
    exact ⟨And.right, fun hv => ⟨ht.expanded.1 hexp, hv⟩⟩
  case bare =>
    intro u n hn hbare
    have ht := hs.told hn
    obtain ⟨hraw, hresolved, htests⟩ := ht.bare hbare
    refine ⟨List.eq_nil_iff_forall_not_mem.2 fun v hv => ?_, hraw, hresolved, htests⟩
    obtain ⟨-, hnext, -⟩ := (hw.edges u v).1 (hedge.1 hv)
    rw [← ht.resolved, hresolved] at hnext
    exact List.not_mem_nil hnext
  case parent =>
    intro v k hk hne
    obtain ⟨hv, rfl⟩ := hs.depthOf?_eq_some_iff.1 hk
    obtain ⟨u, hvu, hdepth⟩ := hw.parent v hv hne
    exact ⟨u, _, hs.depthOf?_eq_some_iff.2 ⟨(hw.mem_keys_of_edge hvu).1, rfl⟩, hdepth, hedge.2 hvu⟩
  case shallow =>
    intro u v j k hvu hj hk
    obtain ⟨-, rfl⟩ := hs.depthOf?_eq_some_iff.1 hj
    obtain ⟨-, rfl⟩ := hs.depthOf?_eq_some_iff.1 hk
    exact hw.shallow u v (hedge.1 hvu)
  case deep =>
    intro m hm v k hk
    obtain ⟨hv, rfl⟩ := hs.depthOf?_eq_some_iff.1 hk
    exact hw.deep m hm v hv
  case apart =>
    exact fun v hv => not_mem_keys_of_mem_excluded hv
  case flags =>
    change [reason == .truncated, reason == .timedOut, reason == .cancelled].count true ≤ 1
    cases reason <;> decide
  case complete =>
    intro hwhole u n hn
    have hreason : reason = .exhausted := by
      change (reason == .truncated || reason == .timedOut || reason == .cancelled) = false at hwhole
      cases reason with
      | exhausted => rfl
      | truncated | timedOut | cancelled => exact absurd hwhole (by decide)
    obtain ⟨hsound, hall⟩ := hexhausted hreason
    have ht := hsound.told hn
    have hexp : u ∈ s.walk.expanded := hall ▸ ht.mem
    refine ⟨ht.expanded.2 hexp, fun hdepth v => ?_⟩
    rw [hedge, hw.edges, ht.resolved]
    refine ⟨fun hv => hv.2.1, fun hv => ⟨hexp, hv, ?_⟩⟩
    by_contra hk
    rcases hsound.walk.missing u hexp v hv hk with ⟨m, hm, hle⟩ | hfalse
    · have := hdepth m hm
      rw [ht.depth] at this
      omega
    · exact Bool.false_ne_true hfalse

theorem accepted (h : Surveyed b root A B (s, reason))
    (hv : v ∈ (s.graph reason root rootReason).nodes.keys) (hne : v ≠ root) : A v := by
  obtain ⟨⟨full, hs⟩, -⟩ := h
  obtain ⟨u, hvu, -⟩ := hs.walk.parent v (mem_keys_nodes.1 hv) hne
  obtain ⟨hu, hnext, -⟩ := (hs.walk.edges u v).1 hvu
  obtain ⟨n, hn⟩ := (hs.known u).1 hu
  rw [resolved, hn] at hnext
  exact (hs.nodes u n hn).accepted v hnext

theorem tested (h : Surveyed b root A B (s, reason))
    (hn : (s.graph reason root rootReason).nodes.get? v = some n) {t : String}
    (ht : t ∈ n.testFiles) : B v t := by
  obtain ⟨⟨full, hs⟩, -⟩ := h
  obtain ⟨-, kind, excluded, excludeReason, rfl⟩ := exists_of_get?_nodes hn
  cases hm : s.nodes.get? v with
  | none => simp [node, hm] at ht
  | some m =>
    have hnode := hs.nodes v m hm
    refine hnode.path ▸ hnode.tested t ?_
    simpa [node, hm] using ht

end Survey

/-- What an analysis goes on with: accepted files, and tests that belong to them. -/
structure Chosen (root : String) (A : String → Prop) (B : String → String → Prop)
    (g : DependencyGraph) : Prop where
  accepted : ∀ v ∈ g.nodes.keys, v ≠ root → A v
  tested : ∀ v n, g.nodes.get? v = some n → ∀ t ∈ n.testFiles, B v t

/-- Whatever an analysis is answered and whatever signals it finds, its graph is well-formed and
leads only to accepted files and their tests. -/
theorem Footing.leads_chosen {config : Settings.Config} (h : Footing T w p.exclusions A)
    (ht : T.Lists w p B) (hp : config.policy = .ok p) (root : String) (maxNodes : Nat) :
    (analyze w config root maxNodes).run.Leads T fun r => ∀ g, r = .ok g →
      g.WellFormed (Path.normalize root) p.maxDepth ∧ Chosen (Path.normalize root) A B g := by
  unfold analyze
  rw [hp]
  dsimp only
  refine Work.leads_bind h.loads (fun _ _ => ?_) fun failure _ g hg => nomatch hg
  have hstart := Survey.Sound.start ⟨p.maxDepth, some maxNodes⟩ (Path.normalize root) A B
  refine Work.leads_ofInquiry_bind
    (h.leads_survey ht _ hstart (Walk.ready_start _) ⟨maxNodes, rfl, by simp⟩) ?_
  rintro ⟨s, reason⟩ hs
  refine Work.leads_bind (h.accepts (Path.normalize root)) (fun rootReason _ => ?_)
    fun failure _ g hg => nomatch hg
  rintro g ⟨⟩
  exact ⟨Survey.wellFormed hs, fun v => Survey.accepted hs, fun v n => Survey.tested hs⟩

/-- The same where nothing is said of the tests. -/
theorem Footing.leads_analyze {config : Settings.Config} (h : Footing T w p.exclusions A)
    (hp : config.policy = .ok p) (root : String) (maxNodes : Nat) :
    (analyze w config root maxNodes).run.Leads T fun r => ∀ g, r = .ok g →
      g.WellFormed (Path.normalize root) p.maxDepth ∧
        ∀ v ∈ g.nodes.keys, v ≠ Path.normalize root → A v :=
  (h.leads_chosen lists_true hp root maxNodes).mono fun _ hr g hg =>
    ⟨(hr g hg).1, (hr g hg).2.accepted⟩

/-- The same of an analysis alone with a disk, with what is known about the caches behind it. -/
theorem Footing.ends_analyze {config : Settings.Config} {d : Volume} {c : Caches} (root : String)
    (maxNodes : Nat) (hp : config.policy = .ok p)
    (h : Footing ((Surroundings.still d).under I) w p.exclusions A) (hc : I c) :
    (analyze w config root maxNodes).run.Ends (.still d) c fun r c' =>
      ∀ g, r = .ok g → I c' ∧ g.WellFormed (Path.normalize root) p.maxDepth ∧
        ∀ v ∈ g.nodes.keys, v ≠ Path.normalize root → A v :=
  ((h.leads_analyze hp root maxNodes).ends_still hc).mono fun _ _ hr g hg => ⟨hr.2, hr.1 g hg⟩

theorem exists_policy_of_analyze {config : Settings.Config} {maxNodes : Nat} {d : Volume}
    {signal : List Query → Signal} {asked : List Query} {c : Caches} {g : DependencyGraph}
    (h : ((analyze w config root maxNodes).run.run d signal asked c).1 = .ok g) :
    ∃ p, config.policy = .ok p := by
  cases hp : config.policy with
  | ok p => exact ⟨p, rfl⟩
  | error failure =>
    unfold analyze at h
    rw [hp] at h
    exact nomatch h

/-- Whatever others do to the disk and the caches while an analysis waits, its graph is
well-formed. -/
theorem ends_analyze_wellFormed {config : Settings.Config} (hp : config.policy = .ok p) (root : String)
    (maxNodes : Nat) (c : Caches) : (analyze w config root maxNodes).run.Ends e c fun r _ =>
      ∀ g, r = .ok g → g.WellFormed (Path.normalize root) p.maxDepth :=
  ((footing_true.leads_analyze hp root maxNodes).ends (fun _ _ _ _ => trivial) trivial).mono
    fun _ _ hr g hg => (hr.1 g hg).1

/-- The graph of an analysis is well-formed, and none of its files but the root is left out,
neither by the rules in force at the start nor by those in force at the end. -/
theorem wellFormed_of_analyze {config : Settings.Config} {maxNodes : Nat} {d : Volume}
    {signal : List Query → Signal} {asked : List Query} {c c' : Caches} {g : DependencyGraph}
    (h : (analyze w config root maxNodes).run.run d signal asked c = (.ok g, c')) :
    ∃ p, config.policy = .ok p ∧ g.WellFormed (Path.normalize root) p.maxDepth ∧
      ∀ v ∈ g.nodes.keys, v ≠ Path.normalize root →
        Accepted d w p.exclusions c v ∧ Accepted d w p.exclusions c' v := by
  obtain ⟨p, hp⟩ := exists_policy_of_analyze (congrArg Prod.fst h)
  obtain ⟨I, hc, hf⟩ := footing_still d w p.exclusions c
  have hrun := (hf.ends_analyze root maxNodes hp hc).run signal asked
  rw [h] at hrun
  obtain ⟨hc', hg, haccepted⟩ := hrun g rfl
  exact ⟨p, hp, hg, fun v hv hne => ⟨haccepted v hv hne c hc, haccepted v hv hne c' hc'⟩⟩

/-- Three files, each but the last importing the next one. -/
def chain : Volume where
  tree := .directory
    [("a.ts", .file (.text "import './b'") 0), ("b.ts", .file (.text "import './c'") 0),
      ("c.ts", .file (.text "") 0)]

/-- Options that leave out the last one. -/
def withoutLast : Settings.Config :=
  { includeTests := .bool false, exclusionPatterns := .arr [.str "c.*"] }

theorem wellFormed_of_analyze_chain : ∃ g c', (analyze (.ofRoot "/") withoutLast "/a.ts" 10).run.run
      chain (fun _ => {}) [] (.ofSize 8) = (.ok g, c') ∧ g.nodes.keys = ["/a.ts", "/b.ts"] ∧
    ∃ p, withoutLast.policy = .ok p ∧ g.WellFormed "/a.ts" p.maxDepth ∧
      Accepted chain (.ofRoot "/") p.exclusions c' "/b.ts" := by
  have hkeys : ((analyze (.ofRoot "/") withoutLast "/a.ts" 10).run.run chain (fun _ => {}) []
      (.ofSize 8)).1.toOption.map (·.nodes.keys) = some ["/a.ts", "/b.ts"] := by decide +kernel
  rcases hrun : (analyze (.ofRoot "/") withoutLast "/a.ts" 10).run.run chain (fun _ => {}) []
    (.ofSize 8) with ⟨failure | g, c'⟩
  · rw [hrun] at hkeys
    exact nomatch hkeys
  · rw [hrun] at hkeys
    have hnodes : g.nodes.keys = ["/a.ts", "/b.ts"] := Option.some.inj hkeys
    obtain ⟨p, hp, hg, haccepted⟩ := wellFormed_of_analyze hrun
    have hb := haccepted "/b.ts" (by simp [hnodes]) (by decide)
    exact ⟨g, c', rfl, hnodes, p, hp, hg, hb.2⟩

end Coselect.Analysis
