import Coselect.Proofs.Graph.Sorted
import Coselect.Proofs.Selection.Coherent

/-! The selection as a function of the graphs applied. However calls are interleaved, whenever
none is in progress the records are those of the graphs last applied and not removed since;
and while some are, a file that a root without a call in progress brings in is selected by
that root. -/

namespace Coselect.Selection

open Coselect.Graph

/-- A root selects the files that its graph brings in, but for itself. -/
def Selects (inForce : String → Option DependencyGraph) (root path : String) : Prop :=
  ∃ g, inForce root = some g ∧ root ≠ path ∧ g.Brings path

/-- The selection that the graphs in force make, at most one for each root. -/
structure State.Reflects (s : State) (inForce : String → Option DependencyGraph) : Prop where
  graphs : ∀ root, s.graphs.get? root = inForce root
  contributions : ∀ root,
    s.contributions.get? root = (inForce root).map (Contribution.ofGraph root)
  selected : ∀ path, (s.records.get? path).isSome ↔ ∃ root, Selects inForce root path
  selectedBy : ∀ path r, s.records.get? path = some r →
    r.selectedBy.Nodup ∧ ∀ root, root ∈ r.selectedBy ↔ Selects inForce root path
  depth : ∀ path r, s.records.get? path = some r →
    IsLeast {d | ∃ root g, inForce root = some g ∧ root ≠ path ∧ g.BringsAt path d} r.depth
  kind : ∀ path r, s.records.get? path = some r →
    (r.kind = .autoDependency ↔
      ∃ root g, inForce root = some g ∧ root ≠ path ∧ g.nodes.contains path = true) ∧
    (r.kind = .autoDependency ∨ r.kind = .autoTest)

namespace State.Reflects

variable {s s' : State} {inForce : String → Option DependencyGraph}

theorem toJson_eq (h : s.Reflects inForce) (h' : s'.Reflects inForce) {path : String} {r r' : Record}
    (hr : s.records.get? path = some r) (hr' : s'.records.get? path = some r') :
    r.toJson = r'.toJson := by
  obtain ⟨hn, hm⟩ := h.selectedBy path r hr
  obtain ⟨hn', hm'⟩ := h'.selectedBy path r' hr'
  have hsel : Text.sortedSet r.selectedBy = Text.sortedSet r'.selectedBy :=
    Text.sortedSet_eq_of_mem_iff hn hn' fun root => (hm root).trans (hm' root).symm
  have hdepth : r.depth = r'.depth := (h.depth path r hr).unique (h'.depth path r' hr')
  obtain ⟨hk, hk₂⟩ := h.kind path r hr
  obtain ⟨hk', hk₂'⟩ := h'.kind path r' hr'
  have hkind : r.kind = r'.kind := by
    have hiff := hk.trans hk'.symm
    rcases hk₂ with e | e <;> rcases hk₂' with e' | e' <;> simp_all
  simp only [Record.toJson, hsel, hdepth, hkind]

/-- Selections of the same graphs are shown alike. -/
theorem snapshot_eq (h : s.Reflects inForce) (h' : s'.Reflects inForce) : s.snapshot = s'.snapshot := by
  refine congrArg Json.obj (map_sorted_eq Record.toJson fun path => ?_)
  have hiff := (h.selected path).trans (h'.selected path).symm
  cases hr : s.records.get? path with
  | none =>
    rw [hr] at hiff
    have : s'.records.get? path = none := by simpa using hiff
    rw [this]
  | some r =>
    rw [hr] at hiff
    obtain ⟨r', hr'⟩ := Option.isSome_iff_exists.1 (hiff.1 rfl)
    rw [hr', Option.map_some, Option.map_some, toJson_eq h h' hr hr']

end State.Reflects

namespace Coherent

variable {s : State} {agenda : String → List Job} {root path : String}

theorem isSome_claim?_iff (h : Coherent s agenda) :
    (s.claim? root path).isSome ↔ Selects s.graphs.get? root path := by
  rw [h.claim?_eq, Selects]
  cases s.graphs.get? root with
  | none => simp
  | some g => simp [Contribution.isSome_get?_ofGraph_iff, ne_comm]

theorem exists_depth_iff (h : Coherent s agenda) {d : Nat} :
    (∃ c, s.claim? root path = some c ∧ c.depth = d) ↔
      ∃ g, s.graphs.get? root = some g ∧ root ≠ path ∧ g.BringsAt path d := by
  rw [h.claim?_eq]
  cases s.graphs.get? root with
  | none => simp
  | some g => simp [Contribution.exists_depth_iff, ne_comm]

theorem exists_autoDependency_iff (h : Coherent s agenda) :
    (∃ c, s.claim? root path = some c ∧ c.kind = .autoDependency) ↔
      ∃ g, s.graphs.get? root = some g ∧ root ≠ path ∧ g.nodes.contains path = true := by
  rw [h.claim?_eq]
  cases s.graphs.get? root with
  | none => simp
  | some g => simp [Contribution.exists_autoDependency_iff, ne_comm]

/-- A file of a root about which the root has nothing left to do has a record with the root. -/
theorem exists_record (h : Coherent s agenda) (hp : path ∉ (agenda root).map Job.path)
    (hs : Selects s.graphs.get? root path) :
    ∃ r, s.records.get? path = some r ∧ root ∈ r.selectedBy := by
  have hm := (h.selects root path hp).2 (h.isSome_claim?_iff.2 hs)
  cases hr : s.records.get? path with
  | none => simp [State.selectors, hr] at hm
  | some r => exact ⟨r, rfl, by rwa [State.selectors_of_get? hr] at hm⟩

/-- With nothing left to do the records are those of the graphs in force. -/
theorem reflects (h : Coherent s agenda) (hidle : ∀ root, agenda root = []) :
    s.Reflects s.graphs.get? := by
  have hsel : ∀ path r, s.records.get? path = some r →
      ∀ root, root ∈ r.selectedBy ↔ (s.claim? root path).isSome := by
    intro path r hr root
    rw [← State.selectors_of_get? hr]
    exact h.selects root path (by simp [hidle])
  have htold : ∀ path r, s.records.get? path = some r →
      IsLeast {d | ∃ root ∈ r.selectedBy, ∃ c, s.claim? root path = some c ∧ c.depth = d} r.depth ∧
        (r.kind = .autoDependency ↔
          ∃ root ∈ r.selectedBy, ∃ c, s.claim? root path = some c ∧ c.kind = .autoDependency) ∧
        (r.kind = .autoDependency ∨ r.kind = .autoTest) := by
    intro path r hr
    obtain ⟨root, hroot⟩ := List.exists_mem_of_ne_nil _ (h.selected path r hr).1
    obtain ⟨c, hc⟩ := Option.isSome_iff_exists.1 ((hsel path r hr root).1 hroot)
    exact State.depth_and_kind_of_refresh_eq
      (h.refreshed path r hr fun _ => by simp [hidle]) hroot hc
  refine ⟨fun _ => rfl, h.contributions, ?_, ?_, ?_, ?_⟩
  case refine_1 =>
    intro path
    constructor
    · intro hr
      obtain ⟨r, hr⟩ := Option.isSome_iff_exists.1 hr
      obtain ⟨root, hroot⟩ := List.exists_mem_of_ne_nil _ (h.selected path r hr).1
      exact ⟨root, h.isSome_claim?_iff.1 ((hsel path r hr root).1 hroot)⟩
    · rintro ⟨root, hs⟩
      obtain ⟨r, hr, -⟩ := h.exists_record (by simp [hidle]) hs
      rw [hr]
      rfl
  case refine_2 =>
    exact fun path r hr => ⟨(h.selected path r hr).2, fun root =>
      (hsel path r hr root).trans h.isSome_claim?_iff⟩
  case refine_3 =>
    intro path r hr
    have hd := (htold path r hr).1
    simp only [← h.exists_depth_iff]
    refine ⟨?_, fun d hmem => hd.2 ?_⟩
    · obtain ⟨root, -, hc⟩ := hd.1
      exact ⟨root, hc⟩
    · obtain ⟨root, c, hc, hdc⟩ := hmem
      exact ⟨root, (hsel path r hr root).2 (by rw [hc]; rfl), c, hc, hdc⟩
  case refine_4 =>
    intro path r hr
    refine ⟨(htold path r hr).2.1.trans ?_, (htold path r hr).2.2⟩
    simp only [← h.exists_autoDependency_iff]
    constructor
    · rintro ⟨root, -, hc⟩
      exact ⟨root, hc⟩
    · rintro ⟨root, c, hc, hk⟩
      exact ⟨root, (hsel path r hr root).2 (by rw [hc]; rfl), c, hc, hk⟩

end Coherent

namespace Orchestrator

variable {o o' : Orchestrator} {log log' : List (String × Purpose)} {root path : String}

/-- What holds after any steps of any calls. The graph in force for a root is the one last
exchanged; the calls that wait for the root are going to exchange it in the order in which
they asked. -/
structure Kept (log : List (String × Purpose)) (o : Orchestrator) : Prop where
  orderly : Orderly o.rootLocks o.calls
  coherent : Coherent o.state o.agenda
  applied : ∀ root, applied log root =
    (o.awaited root).foldl (fun _ p => p.graph?) (o.state.graphs.get? root)

theorem kept_initial : Kept [] {} where
  orderly := by constructor <;> simp [KeyedLock.queue]
  coherent := Coherent.empty
  applied _ := rfl

theorem Kept.effect {logged : List (String × Purpose)} (h : Kept log o)
    (horderly : Orderly o'.rootLocks o'.calls) (he : Effect o o' logged) :
    Kept (log ++ logged) o' := by
  refine ⟨horderly, ?_, ?_⟩
  · cases he with
    | asked _ _ hs hagenda => rw [hs, hagenda]; exact h.coherent
    | exchanged c rest _ hidle hs hagenda =>
      rw [hs, hagenda]
      exact h.coherent.exchange hidle
    | performed root j jobs u hb hs hagenda =>
      rw [hs, hagenda]
      exact h.coherent.perform hb
    | nothing hs hagenda => rw [hs, hagenda]; exact h.coherent
  · intro r
    have happlied := h.applied r
    cases he with
    | asked root purpose hs _ hawaited =>
      rw [applied_append, hs, hawaited]
      by_cases hr : root = r
      · subst hr
        rw [if_pos rfl, Function.update_self, List.foldl_append]
        rfl
      · rw [if_neg hr, Function.update_of_ne (Ne.symm hr), happlied]
    | exchanged c rest hb _ hs _ hawaited =>
      rw [List.append_nil, happlied, hs, hawaited, get?_graphs_exchange]
      by_cases hr : r = c.root
      · subst hr
        rw [if_pos rfl, Function.update_self, hb, List.foldl_cons]
      · rw [if_neg hr, Function.update_of_ne hr]
    | performed root j jobs u _ hs _ hawaited =>
      rw [List.append_nil, happlied, hs, hawaited, graphs_perform]
    | nothing hs _ hawaited => rw [List.append_nil, happlied, hs, hawaited]

theorem Runs.kept (h : Runs log o) : Kept log o := by
  induction h with
  | initial => exact kept_initial
  | @start log o task root purpose _ hn ih =>
    have hq : ∀ r, task ∉ o.rootLocks.queue r := by
      intro r hm
      obtain ⟨c, hc, -⟩ := (ih.orderly.mem_queue r task).1 hm
      rw [hn] at hc
      contradiction
    have hlocks : (o.start task (Path.normalize root) purpose).rootLocks = o.rootLocks := rfl
    have hviews := views_of_notMem hq hlocks
      fun t ht => by simp [Orchestrator.start, Ne.symm ht]
    have horderly : Orderly o.rootLocks
        (o.calls.insert task ⟨Path.normalize root, purpose, .starting, {}⟩) :=
      ih.orderly.insert (by simp [hq, Phase.inLine]) (by simp [Phase.atWork])
    rw [← List.append_nil log]
    exact ih.effect horderly (.nothing rfl hviews.1 hviews.2)
  | step task _ hc hs ih =>
    have ha := advance_of_step? hc hs
    exact ih.effect (orderly_advance ih.orderly hc ha) (effect_of_advance ih.orderly hc ha)
  | @collect log o c task _ hc hf ih =>
    have hline : c.phase.inLine = false := by simp [hf, Phase.inLine]
    have hlocks : (o.collect task).2.rootLocks = o.rootLocks := rfl
    have hviews := views_of_notMem (fun r => ih.orderly.notMem_queue hc fun _ => hline) hlocks
      fun t ht => by simp [Orchestrator.collect, ht]
    rw [← List.append_nil log]
    exact ih.effect (ih.orderly.erase hc hline) (.nothing rfl hviews.1 hviews.2)

theorem Advance.graphs {task : Nat} {c : Call} (h : Advance o task c o') {g : DependencyGraph}
    (hg : o'.state.graphs.get? root = some g) :
    o.state.graphs.get? root = some g ∨ root = c.root ∧ c.purpose = .apply g := by
  cases h with
  | request | leave | approach => exact .inl hg
  | exchange =>
    simp only [get?_graphs_exchange] at hg
    split at hg
    next hr =>
      cases hp : c.purpose with
      | remove => simp [hp, Purpose.graph?] at hg
      | apply g' =>
        rw [hp] at hg
        exact .inr ⟨hr, congrArg Purpose.apply (Option.some.inj hg)⟩
    next => exact .inl hg
  | perform => exact .inl (by simpa using hg)

/-- The graphs applied are among those asked for, as are the calls that have asked for the lock
of their root. -/
theorem Runs.logged (run : Runs log o) :
    (∀ task c, o.calls.get? task = some c → c.phase ≠ .starting → (c.root, c.purpose) ∈ log) ∧
      ∀ root g, o.state.graphs.get? root = some g → (root, .apply g) ∈ log := by
  induction run with
  | initial => exact ⟨(fun _ _ h => nomatch h), (fun _ _ h => nomatch h)⟩
  | @start _ o task root purpose _ _ ih =>
    refine ⟨fun task' c hc hp => ?_, ih.2⟩
    simp only [Orchestrator.start, Table.get?_insert] at hc
    split at hc
    next => exact absurd (by rw [← Option.some.inj hc]) hp
    next => exact ih.1 task' c hc hp
  | @step log o o' c task _ hc hs ih =>
    have ha := advance_of_step? hc hs
    have hmem : (c.root, c.purpose) ∈ log ++ c.requests := by
      by_cases hp : c.phase = .starting
      · simp [Call.requests, hp]
      · exact List.mem_append_left _ (ih.1 task c hc hp)
    refine ⟨fun task' c' hc' hp => ?_, fun root g hg => ?_⟩
    · obtain ⟨phase, update, -, hcalls⟩ := ha.calls
      rw [hcalls, Table.get?_insert] at hc'
      split at hc'
      next => rw [← Option.some.inj hc']; exact hmem
      next => exact List.mem_append_left _ (ih.1 task' c' hc' hp)
    · rcases ha.graphs hg with hg | ⟨rfl, hp⟩
      · exact List.mem_append_left _ (ih.2 root g hg)
      · rwa [← hp]
  | collect task _ _ _ ih =>
    refine ⟨fun task' c hc hp => ?_, ih.2⟩
    simp only [Orchestrator.collect, Table.get?_erase] at hc
    split at hc
    next => contradiction
    next => exact ih.1 task' c hc hp

theorem Kept.queue_of_quiet (h : Kept log o) (hq : o.Quiet root) : o.rootLocks.queue root = [] := by
  rw [List.eq_nil_iff_forall_not_mem]
  intro task hm
  obtain ⟨c, hc, hr, hl⟩ := (h.orderly.mem_queue root task).1 hm
  simp [hq task c hc hr, Phase.inLine] at hl

/-- For a root without a call in progress nothing is left to do, and its graph in force is the
one last applied. -/
theorem Kept.of_quiet (h : Kept log o) (hq : o.Quiet root) :
    o.agenda root = [] ∧ Selection.applied log root = o.state.graphs.get? root := by
  have hqueue := h.queue_of_quiet hq
  refine ⟨agenda_of_queue_nil hqueue, ?_⟩
  rw [h.applied root, awaited, hqueue]
  rfl

theorem Idle.quiet (h : o.Idle) (root : String) : o.Quiet root := fun task c hc _ => h task c hc

theorem Kept.reflects (h : Kept log o) (hidle : o.Idle) :
    o.state.Reflects (Selection.applied log) := by
  have heq : Selection.applied log = o.state.graphs.get? :=
    funext fun root => (h.of_quiet (hidle.quiet root)).2
  rw [heq]
  exact h.coherent.reflects fun root => (h.of_quiet (hidle.quiet root)).1

/-- Whatever the order of the steps of any calls, without a call in progress the selection is
that of the graphs last applied and not removed since, and no other trace of the calls is
left; and at no time is a file without a record that a root brings in for which no call is
in progress. -/
theorem selection_reflects_applied (run : Runs log o) :
    (o.Idle → o.state.Reflects (applied log) ∧
      ∀ log' o', Runs log' o' → o'.Idle → applied log' = applied log →
        o'.state.snapshot = o.state.snapshot) ∧
    ∀ root path, o.Quiet root → Selects (applied log) root path →
      ∃ r, o.state.records.get? path = some r ∧ root ∈ r.selectedBy := by
  have h := run.kept
  refine ⟨fun hidle => ⟨h.reflects hidle, ?_⟩, ?_⟩
  · intro log' o' run' hidle' heq
    have h' := run'.kept.reflects hidle'
    rw [heq] at h'
    exact h'.snapshot_eq (h.reflects hidle)
  · intro root path hq hs
    obtain ⟨hagenda, happlied⟩ := h.of_quiet hq
    refine h.coherent.exists_record (by simp [hagenda]) ?_
    simpa [Selects, happlied] using hs

/-- The graph of a root that imports one file. -/
def importing (root file : String) : DependencyGraph :=
  { nodes := .ofList [(root, { path := root, depth := 0 }), (file, { path := file, depth := 1 })] }

/-- Two roots that import the same file are applied side by side, and one of them is removed
while the other is still at the file. -/
theorem selection_reflects_applied_side_by_side : ∃ log o, Runs log o ∧ o.Idle ∧
    log.map Prod.fst = ["/a", "/c", "/a"] ∧ o.state.Reflects (applied log) ∧
    (o.state.records.get? "/b").map (·.selectedBy) = some ["/c"] := by
  have run := Runs.initial
    |>.start 0 "/a" (.apply (importing "/a" "/b")) rfl
    |>.start 1 "/c" (.apply (importing "/c" "/b")) rfl
    |>.start 2 "/a" .remove rfl
    |>.step 0 rfl rfl |>.step 1 rfl rfl |>.step 0 rfl rfl |>.step 2 rfl rfl
    -- both are at the record of the file, the second root first
    |>.step 1 rfl rfl |>.step 1 rfl rfl |>.step 0 rfl rfl |>.step 1 rfl rfl |>.step 0 rfl rfl
    |>.step 0 rfl rfl |>.step 2 rfl rfl |>.step 2 rfl rfl |>.step 2 rfl rfl |>.step 2 rfl rfl
    |>.step 1 rfl rfl
    |>.collect 0 rfl rfl |>.collect 1 rfl rfl |>.collect 2 rfl rfl
  have reflects := (selection_reflects_applied run).1 (fun _ _ h => nomatch h)
  exact ⟨_, _, run, (fun _ _ h => nomatch h), rfl, reflects.1, rfl⟩

end Orchestrator

end Coselect.Selection
