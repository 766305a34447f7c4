import Coselect.Proofs.Analysis.Failing
import Coselect.Proofs.Analysis.IgnoreFiles

/-! What leaving out more files does to a graph. The imports that an expansion goes on with depend on
the file alone, so two graphs over the same files follow the same imports but for those left out;
every way through the narrower graph is one through the wider graph, and no way there is longer than
the first one found. -/

namespace Coselect.Graph.DependencyGraph

variable {g g' : DependencyGraph} {root u v : String} {maxDepth : Option Nat} {k : Nat}

theorem exists_node_of_depthOf? (h : g.depthOf? u = some k) :
    ∃ n, g.nodes.get? u = some n ∧ n.depth = k := Option.map_eq_some_iff.1 h

theorem exists_depthOf?_of_mem (h : u ∈ g.nodes.keys) : ∃ k, g.depthOf? u = some k := by
  obtain ⟨n, hn⟩ := Option.isSome_iff_exists.1 (Table.mem_keys_iff.1 h)
  exact ⟨n.depth, by rw [depthOf?, hn, Option.map_some]⟩

/-- Only an expanded node has edges. -/
theorem WellFormed.exists_expanded (hg : g.WellFormed root maxDepth) (h : v ∈ g.edges.next u) :
    ∃ n, g.nodes.get? u = some n ∧ n.expanded = true := by
  have hu : u ∈ g.nodes.keys := by
    rw [← hg.edgeKeys, Table.mem_keys_iff]
    cases hget : g.edges.get? u with
    | some vs => rfl
    | none => simp [Adjacency.next, hget] at h
  obtain ⟨n, hn⟩ := Option.isSome_iff_exists.1 (Table.mem_keys_iff.1 hu)
  refine ⟨n, hn, ?_⟩
  by_contra hnot
  rw [(hg.bare u n hn (.inl (Bool.eq_false_iff.2 hnot))).1] at h
  exact List.not_mem_nil h

/-- The expanded nodes of a graph have the imports that a relation of files says. -/
def Follows (g : DependencyGraph) (imports : String → String → Prop) : Prop :=
  ∀ u n, g.nodes.get? u = some n → n.expanded = true → ∀ v, v ∈ n.resolvedImports ↔ imports u v

theorem Follows.of_edge {imports : String → String → Prop} (hf : g.Follows imports)
    (hg : g.WellFormed root maxDepth) (h : v ∈ g.edges.next u) : imports u v := by
  obtain ⟨n, hn, hexpanded⟩ := hg.exists_expanded h
  exact (hf u n hn hexpanded v).1 ((hg.linked u n hn hexpanded v).1 h).1

section Narrower

variable {imports imports' : String → String → Prop} (hg : g.WellFormed root maxDepth)
  (hg' : g'.WellFormed root maxDepth) (hwhole : g.isPartial = false) (hf : g.Follows imports)
  (hf' : g'.Follows imports') (hsub : ∀ u v, imports' u v → imports u v)

include hg hg' hwhole hf hf' hsub

/-- What a graph with fewer imports reaches, the other one reaches on a way that is no longer. -/
theorem exists_depthOf?_le (h : g'.depthOf? v = some k) : ∃ j ≤ k, g.depthOf? v = some j := by
  induction k generalizing v with
  | zero =>
    by_cases hv : v = root
    · exact ⟨0, Nat.le_refl 0, hv ▸ hg.rooted⟩
    · obtain ⟨u, j, -, hfalse, -⟩ := hg'.parent v 0 h hv
      omega
  | succ k ih =>
    by_cases hv : v = root
    · exact ⟨0, Nat.zero_le _, hv ▸ hg.rooted⟩
    obtain ⟨u, k', hu', hk, hedge⟩ := hg'.parent v (k + 1) h hv
    obtain rfl : k' = k := by omega
    obtain ⟨j, hj, hu⟩ := ih hu'
    obtain ⟨n, hn, rfl⟩ := exists_node_of_depthOf? hu
    -- the parent is above the limit in both graphs, so the wider one has all edges from it
    have habove : ∀ m, maxDepth = some m → n.depth < m := by
      intro m hm
      have := hg'.deep m hm v (k' + 1) h
      omega
    obtain ⟨hexpanded, hall⟩ := hg.complete hwhole u n hn
    have hnext : v ∈ g.edges.next u := by
      rw [hall habove, hf u n hn hexpanded]
      exact hsub u v (hf'.of_edge hg' hedge)
    obtain ⟨i, hi⟩ := exists_depthOf?_of_mem (hg.closed u v hnext)
    have := hg.shallow u v n.depth i hnext hu hi
    exact ⟨i, by omega, hi⟩

theorem exists_node_of_mem (h : v ∈ g'.nodes.keys) : ∃ n, g.nodes.get? v = some n := by
  obtain ⟨k, hk⟩ := exists_depthOf?_of_mem h
  obtain ⟨j, -, hj⟩ := exists_depthOf?_le hg hg' hwhole hf hf' hsub hk
  obtain ⟨n, hn, -⟩ := exists_node_of_depthOf? hj
  exact ⟨n, hn⟩

/-- Nor does a graph with fewer imports have an edge that the other one lacks. -/
theorem mem_next_of_mem_next (h : v ∈ g'.edges.next u) : v ∈ g.edges.next u := by
  obtain ⟨n', hn', -⟩ := hg'.exists_expanded h
  obtain ⟨n, hn⟩ := exists_node_of_mem hg hg' hwhole hf hf' hsub
    (Table.mem_keys_iff.2 (by rw [hn']; rfl))
  obtain ⟨m, hm⟩ := exists_node_of_mem hg hg' hwhole hf hf' hsub (hg'.closed u v h)
  have hexpanded := (hg.complete hwhole u n hn).1
  rw [hg.linked u n hn hexpanded, hf u n hn hexpanded]
  exact ⟨hsub u v (hf'.of_edge hg' h), Table.mem_keys_iff.2 (by rw [hm]; rfl)⟩

end Narrower

end Coselect.Graph.DependencyGraph

namespace Coselect.Analysis

open Disk Coselect.Graph Imports

variable {F F' : Findings} {b : Bounds} {fuel : Nat} {s : Survey} {root path importer : String}
  {statements : List Statement} {found : List String} {out : LeftOut}

namespace Findings

/-! ### The imports of a file -/

theorem target_eq_file_iff {specifier : String} : F.target importer specifier = .ok (.file path) ↔
    F.lead specifier importer = some path ∧ F.reason path = .ok none := by
  unfold target
  cases F.lead specifier importer with
  | none => simp [pure, Except.pure]
  | some p =>
    dsimp only [bind, Except.bind]
    rcases hreason : F.reason p with failure | _ | reason
    · simp only [Option.some.injEq, reduceCtorEq, false_iff, not_and]
      rintro rfl
      simp [hreason]
    · simp only [pure, Except.pure, Except.ok.injEq, Target.file.injEq, Option.some.injEq, iff_self_and]
      rintro rfl
      exact hreason
    · simp only [pure, Except.pure, Except.ok.injEq, reduceCtorEq, Option.some.injEq, false_iff,
        not_and]
      rintro rfl
      simp [hreason]

/-- A file has an import that an expansion of it goes on with; none if a part of this fails. -/
structure GoesOn (F : Findings) (importer path : String) : Prop where
  tested : ∃ tests, F.tests importer = .ok tests
  led : ∃ statements, F.statements importer = .ok statements ∧
    (∀ s ∈ statements, ∃ t, F.target importer s.source = .ok t) ∧
    ∃ s ∈ statements, F.target importer s.source = .ok (.file path)

/-- The files that some statements lead to, where none of them fails. -/
theorem mem_targets (statements : List Statement) (found : List String) (out : LeftOut) :
    (∃ fs, (F.targets importer statements found out).1 = .ok fs ∧ path ∈ fs) ↔
      (∀ s ∈ statements, ∃ t, F.target importer s.source = .ok t) ∧
        (path ∈ found ∨ ∃ s ∈ statements, F.target importer s.source = .ok (.file path)) := by
  induction statements generalizing found out with
  | nil => simp [targets]
  | cons s rest ih =>
    rw [targets, List.forall_mem_cons]
    simp only [List.exists_mem_cons_iff]
    rcases htarget : F.target importer s.source with failure | _ | ⟨other, reason⟩ | other
    · simp
    · simp [ih]
    · simp [ih]
    · have hmem : path ∈ (if found.contains other then found else found ++ [other]) ↔
          path ∈ found ∨ other = path := by
        split
        next hin =>
          refine ⟨.inl, fun h => h.elim id ?_⟩
          rintro rfl
          exact List.contains_iff_mem.1 hin
        next => simp [eq_comm]
      simp only [ih]
      rw [hmem]
      simp [or_assoc]

/-- The imports of an expanded node are those that the expansion goes on with, at any depth and
whatever was left out before. -/
theorem mem_resolvedImports_expand (depth : Nat) (out : LeftOut) :
    path ∈ (F.expand importer depth out).1.resolvedImports ↔ F.GoesOn importer path := by
  have hnone {f : Failure} (h : ¬ F.GoesOn importer path) :
      path ∈ (failedNode importer depth f).resolvedImports ↔ F.GoesOn importer path :=
    iff_of_false List.not_mem_nil h
  unfold expand
  cases hstatements : F.statements importer with
  | error f =>
    refine hnone fun ⟨_, statements, h, _⟩ => ?_
    rw [hstatements] at h
    cases h
  | ok statements =>
    have htargets : (∃ fs, (F.targets importer statements [] out).1 = .ok fs ∧ path ∈ fs) ↔ _ :=
      mem_targets ..
    simp only [List.not_mem_nil, false_or] at htargets
    rcases hfound : F.targets importer statements [] out with ⟨f | found, out'⟩
    all_goals simp only [hfound, reduceCtorEq, false_and, exists_false, Except.ok.injEq,
      exists_eq_left'] at htargets ⊢
    · refine hnone fun ⟨_, statements', h, hled⟩ => ?_
      rw [hstatements] at h
      cases h
      exact htargets.2 hled
    · cases htests : F.tests importer with
      | error f =>
        refine hnone fun ⟨⟨tests, h⟩, _⟩ => ?_
        rw [htests] at h
        cases h
      | ok tests =>
        refine htargets.trans ⟨fun hled => ⟨⟨tests, htests⟩, statements, hstatements, hled⟩, ?_⟩
        rintro ⟨-, statements', h, hled⟩
        rw [hstatements] at h
        cases h
        exact hled

/-- The nodes of a survey have the imports that expansions go on with. -/
def Noted (F : Findings) (s : Survey) : Prop :=
  ∀ u n, s.nodes.get? u = some n → ∀ v, v ∈ n.resolvedImports ↔ F.GoesOn u v

theorem noted_turn (h : F.Noted s) (path : String) (walk : Walk) :
    F.Noted (F.turn b s path walk).1 := by
  intro u n hn v
  replace hn : (s.nodes.insert (F.expand path (walk.depth path) s.leftOut).1.path
      (F.expand path (walk.depth path) s.leftOut).1).get? u = some n := hn
  rw [path_expand, Table.get?_insert] at hn
  split at hn
  next heq =>
    cases hn
    rw [heq]
    exact mem_resolvedImports_expand ..
  next => exact h u n hn v

theorem noted_survey (h : F.Noted s) : F.Noted (F.survey b fuel s).1 := by
  induction fuel generalizing s with
  | zero => exact h
  | succ fuel ih =>
    unfold survey
    split
    next => exact h
    next path walk _ =>
      have hturn := noted_turn (b := b) h path walk
      split
      next heq =>
        rw [heq] at hturn
        exact hturn
      next heq =>
        rw [heq] at hturn
        exact ih hturn

/-- So do the expanded nodes of a graph. -/
theorem follows_graph {g : DependencyGraph} (h : F.graph b fuel root = .ok g) :
    g.Follows F.GoesOn := by
  intro u n hn hexpanded v
  cases hreason : F.reason root with
  | error f =>
    rw [graph_eq_error hreason] at h
    cases h
  | ok reason =>
    rw [graph_eq_ok hreason] at h
    cases h
    obtain ⟨-, kind, excluded, excludeReason, rfl⟩ := Survey.exists_of_get?_nodes hn
    have hnoted : F.Noted (F.surveyOf b fuel root).1 := noted_survey nofun
    cases hget : (F.surveyOf b fuel root).1.nodes.get? u with
    | none => simp [Survey.node, hget] at hexpanded
    | some m =>
      simp only [Survey.node, hget, Option.getD_some]
      exact hnoted u m hget v

/-! ### Leaving out more -/

/-- Findings about the same files of which the second leave out what the first do; where a file
imports anything, the first find out about every file whether it is left out. -/
structure Narrows (F F' : Findings) : Prop where
  statements : F'.statements = F.statements
  lead : F'.lead = F.lead
  tests : F'.tests = F.tests
  decides : ∀ importer statements, F.statements importer = .ok statements → statements ≠ [] →
    ∀ path, ∃ reason, F.reason path = .ok reason
  keeps : ∀ path reason, F.reason path = .ok (some reason) → F'.reason path ≠ .ok none

theorem Narrows.goesOn (h : F.Narrows F') (hgoes : F'.GoesOn importer path) :
    F.GoesOn importer path := by
  obtain ⟨⟨tests, htests⟩, statements, hstatements, -, s, hs, htarget⟩ := hgoes
  rw [h.statements] at hstatements
  have hdecides := h.decides importer statements hstatements (List.ne_nil_of_mem hs)
  refine ⟨⟨tests, h.tests ▸ htests⟩, statements, hstatements, fun s' _ => ?_, s, hs, ?_⟩
  · unfold target
    cases F.lead s'.source importer with
    | none => exact ⟨_, rfl⟩
    | some path =>
      obtain ⟨reason, hreason⟩ := hdecides path
      dsimp only
      rw [hreason]
      cases reason <;> exact ⟨_, rfl⟩
  · obtain ⟨hlead, hreason'⟩ := target_eq_file_iff.1 htarget
    obtain ⟨reason, hreason⟩ := hdecides path
    refine target_eq_file_iff.2 ⟨h.lead ▸ hlead, ?_⟩
    cases reason with
    | none => exact hreason
    | some reason => exact absurd hreason' (h.keeps path reason hreason)

end Findings

/-! ### Two analyses -/

variable {d : Volume} {w : Workspace} {config : Settings.Config} {p : Settings.Policy}
  {m : Alias.Mapping} {c c' : Caches}

/-- The options with other ones about what is left out. -/
def withExclusionOptions (config : Settings.Config) (excludeThirdParty respectIgnoreFile
    exclusionPatterns : Json) : Settings.Config :=
  { config with excludeThirdParty, respectIgnoreFile, exclusionPatterns }

/-- The policy of options does not hang on those about what is left out, but for what it says about
that. -/
theorem policy_withExclusionOptions (config : Settings.Config) (excludeThirdParty respectIgnoreFile
    exclusionPatterns : Json) :
    let config' := withExclusionOptions config excludeThirdParty respectIgnoreFile exclusionPatterns
    config'.policy = config.policy.map fun p => { p with exclusions := config'.exclusions } := by
  intro config'
  unfold Settings.Config.policy
  have hdepth : config'.depth = config.depth := rfl
  have hundotted : config'.undotted? = config.undotted? := rfl
  have hsuffixes : config'.suffixes = config.suffixes := rfl
  rw [hdepth, hundotted, hsuffixes]
  cases config.depth with
  | error f => rfl
  | ok depth =>
    cases config.undotted? with
    | some suffix => rfl
    | none => cases config.suffixes <;> rfl

theorem exclusions_of_policy (hp : config.policy = .ok p) : p.exclusions = config.exclusions := by
  have hpolicy := policy_withExclusionOptions config config.excludeThirdParty
    config.respectIgnoreFile config.exclusionPatterns
  rw [hp] at hpolicy
  exact congrArg Settings.Policy.exclusions (Except.ok.inj (hp.symm.trans hpolicy))

/-- Asked on a disk from some caches, a file is left out. -/
def Excluded (d : Volume) (w : Workspace) (x : Settings.Exclusions) (c : Caches) (path : String) :
    Prop :=
  ∃ reason, ∀ signal asked, ((excludeReason w x path).run.run d signal asked c).1 = .ok (some reason)

/-- Only on a disk whose files are in an encoding does a file import anything. -/
theorem encoding_of_importsOn {suffixes : List String}
    (h : importsOn d w suffixes path = .ok statements) (hne : statements ≠ []) :
    Text.Encoding.named? d.encoding ≠ none := by
  unfold importsOn at h
  split at h
  next =>
    cases h
    exact absurd rfl hne
  next =>
    unfold statementsOn textOn at h
    split at h
    next hread => exact encoding_of_read hread
    next => cases h
    next => cases h

/-- On a disk whose ignore files compile, options that leave out more narrow the findings. -/
theorem narrows_findingsOn (hc : Drawn (rulesOn d w) (Told (aliasesOn d w)) (Stocked fun _ => d) c)
    (hc' : Drawn (rulesOn d w) (Told (aliasesOn d w)) (Stocked fun _ => d) c')
    (hlines : ∀ line ∈ ignoreLinesOn d w, Ignore.Legible line)
    (hpatterns : ∃ rules, compiled p.exclusions.patterns = .ok rules) {x : Settings.Exclusions}
    (hmore : ∀ path, Excluded d w p.exclusions c path → Excluded d w x c' path) :
    (findingsOn d w p m).Narrows (findingsOn d w { p with exclusions := x } m) where
  statements := rfl
  lead := rfl
  tests := rfl
  decides importer statements hstatements hne path := by
    obtain ⟨made, hmade⟩ := hpatterns
    have hrules := rulesOn_eq (encoding_of_importsOn hstatements hne) hlines
    cases hreason : (findingsOn d w p m).reason path with
    | ok reason => exact ⟨reason, rfl⟩
    | error f =>
      rcases error_of_verdict hreason with h | h
      · rw [hrules] at h
        cases h
      · rw [hmade] at h
        cases h
  keeps path reason hreason := by
    have hexcluded : Excluded d w p.exclusions c path :=
      ⟨reason, fun signal asked => (run_excludeReason hc path signal asked).trans hreason⟩
    obtain ⟨reason', hreason'⟩ := hmore path hexcluded
    have hverdict := (run_excludeReason hc' path quiet []).symm.trans (hreason' quiet [])
    intro hnone
    exact nomatch hverdict.symm.trans hnone

/-- Options that leave out more bring no files, shorter ways or edges into a graph, as long as the
lines of the ignore files and the user's patterns compile and neither graph is partial. -/
theorem leaving_out_more_narrows
    (hc : Drawn (rulesOn d w) (Told (aliasesOn d w)) (Stocked fun _ => d) c)
    (hc' : Drawn (rulesOn d w) (Told (aliasesOn d w)) (Stocked fun _ => d) c')
    (config : Settings.Config) (excludeThirdParty respectIgnoreFile exclusionPatterns : Json)
    (root : String) (maxNodes : Nat) (signal signal' : List Query → Signal)
    (hlines : ∀ line ∈ ignoreLinesOn d w, Ignore.Legible line)
    (hpatterns : ∃ rules, compiled config.exclusions.patterns = .ok rules) :
    let config' := withExclusionOptions config excludeThirdParty respectIgnoreFile exclusionPatterns
    (∀ path, Excluded d w config.exclusions c path → Excluded d w config'.exclusions c' path) →
    ∀ g g', ((analyze w config root maxNodes).run.run d signal [] c).1 = .ok g →
      ((analyze w config' root maxNodes).run.run d signal' [] c').1 = .ok g' →
      g.isPartial = false → g'.isPartial = false →
      (∀ v n', g'.nodes.get? v = some n' → ∃ n, g.nodes.get? v = some n ∧ n.depth ≤ n'.depth) ∧
        ∀ u v, v ∈ g'.edges.next u → v ∈ g.edges.next u := by
  intro config' hmore g g' hg hg' hwhole hwhole'
  obtain ⟨p, hp, hwell, -⟩ := wellFormed_of_analyze (Prod.ext hg rfl)
  obtain ⟨p', hp', hwell', -⟩ := wellFormed_of_analyze (Prod.ext hg' rfl)
  have hpolicy := policy_withExclusionOptions config excludeThirdParty respectIgnoreFile
    exclusionPatterns
  rw [hp] at hpolicy
  obtain rfl : p' = { p with exclusions := config'.exclusions } :=
    Except.ok.inj (hp'.symm.trans hpolicy)
  have hexclusions := exclusions_of_policy hp
  rw [← hexclusions] at hpatterns hmore
  -- a graph that is not partial was not stopped, so it is the graph of what is found on the disk
  obtain ⟨⟨-, htime⟩, hcancel⟩ : (_ ∧ _) ∧ _ := by
    simpa only [DependencyGraph.isPartial, Bool.or_eq_false_iff] using hwhole
  obtain ⟨⟨-, htime'⟩, hcancel'⟩ : (_ ∧ _) ∧ _ := by
    simpa only [DependencyGraph.isPartial, Bool.or_eq_false_iff] using hwhole'
  have hr := expected_analyze hc config root maxNodes signal
  have hr' := expected_analyze hc' config' root maxNodes signal'
  rw [hg] at hr
  rw [hg'] at hr'
  have hgraph := hr.eq_ok htime hcancel
  have hgraph' := hr'.eq_ok htime' hcancel'
  cases hm : aliasesOn d w with
  | error f =>
    rw [graphOn_eq_error hp hm] at hgraph
    cases hgraph
  | ok m =>
    rw [graphOn_eq hp hm] at hgraph
    rw [graphOn_eq hp' hm] at hgraph'
    have hnarrows : (findingsOn d w p m).Narrows _ :=
      narrows_findingsOn hc hc' hlines hpatterns hmore
    have hsub : ∀ u v, _ → (findingsOn d w p m).GoesOn u v := fun u v => hnarrows.goesOn
    have hf := Findings.follows_graph hgraph
    have hf' := Findings.follows_graph hgraph'
    refine ⟨fun v n' hn' => ?_, fun u v hedge => ?_⟩
    · have hdepth : g'.depthOf? v = some n'.depth := by
        rw [DependencyGraph.depthOf?, hn', Option.map_some]
      obtain ⟨k, hk, hkdepth⟩ :=
        DependencyGraph.exists_depthOf?_le hwell hwell' hwhole hf hf' hsub hdepth
      obtain ⟨n, hn, rfl⟩ := DependencyGraph.exists_node_of_depthOf? hkdepth
      exact ⟨n, hn, hk⟩
    · exact DependencyGraph.mem_next_of_mem_next hwell hwell' hwhole hf hf' hsub hedge

/-- Patterns leave out more than none. -/
theorem verdict_withPatterns (x : Settings.Exclusions) (patterns : Settings.Texts)
    {rules made made' : Except Failure Ignore.Rules} {reason : ExcludeReason}
    (h : verdict w { x with patterns := {} } rules made path = .ok (some reason)) :
    verdict w { x with patterns } rules made' path = .ok (some reason) := by
  have hempty : (!Settings.Texts.isEmpty {}) = false := rfl
  unfold verdict at h ⊢
  dsimp only at h ⊢
  rw [hempty] at h
  by_cases hmanaged : (x.thirdParty && isExternallyManaged path) = true
  · rwa [if_pos hmanaged] at h ⊢
  rw [if_neg hmanaged] at h ⊢
  by_cases hignore : x.ignoreFile = true
  · rw [if_pos hignore] at h ⊢
    cases rules with
    | error f => exact nomatch h
    | ok rules =>
      dsimp only [bind, Except.bind] at h ⊢
      split at h
      next hignored => rwa [if_pos hignored]
      next => exact nomatch h
  · rw [if_neg hignore] at h
    exact nomatch h

theorem leaving_out_more_narrows_chain :
    let w := Workspace.ofRoot "/"
    let config : Settings.Config := { includeTests := .bool false }
    let config' := withExclusionOptions config (.bool true) (.bool true) (.strings ["c.*"])
    let r := ((analyze w config "/a.ts" 10).run.run chain quiet [] (.ofSize 8)).1
    let r' := ((analyze w config' "/a.ts" 10).run.run chain quiet [] (.ofSize 8)).1
    ∃ g g', r = .ok g ∧ r' = .ok g' ∧ g.nodes.keys = ["/a.ts", "/b.ts", "/c.ts"] ∧
      g'.nodes.keys = ["/a.ts", "/b.ts"] ∧ (∃ n, g.nodes.get? "/b.ts" = some n ∧ n.depth ≤ 1) ∧
      "/b.ts" ∈ g.edges.next "/a.ts" := by
  intro w config config' r r'
  have hc : Drawn (rulesOn chain w) (Told (aliasesOn chain w)) (Stocked fun _ => chain)
      (.ofSize 8) := drawn_ofSize (by decide) _
  have hall : config.exclusions = {} := rfl
  have hsome : config'.exclusions = { patterns := { items := ["c.*"] } } := rfl
  have hmore : ∀ path, Excluded chain w config.exclusions (.ofSize 8) path →
      Excluded chain w config'.exclusions (.ofSize 8) path := by
    rw [hall, hsome]
    rintro path ⟨reason, h⟩
    refine ⟨reason, fun signal asked => (run_excludeReason hc path signal asked).trans ?_⟩
    have hverdict := (run_excludeReason hc path quiet []).symm.trans (h quiet [])
    exact verdict_withPatterns {} { items := ["c.*"] } hverdict
  have hgraph : r.toOption.map (fun g => (g.nodes.keys, g.isPartial)) =
      some (["/a.ts", "/b.ts", "/c.ts"], false) := by decide +kernel
  have hgraph' : r'.toOption.map (fun g => (g.nodes.keys, g.depthOf? "/b.ts", g.edges.next "/a.ts",
      g.isPartial)) = some (["/a.ts", "/b.ts"], some 1, ["/b.ts"], false) := by decide +kernel
  obtain ⟨g, hg, hvalues⟩ := exists_ok_of_map hgraph
  obtain ⟨g', hg', hvalues'⟩ := exists_ok_of_map hgraph'
  obtain ⟨hkeys, hwhole⟩ : _ ∧ _ := by simpa only [Prod.mk.injEq] using hvalues
  obtain ⟨hkeys', hdepth, hnext, hwhole'⟩ : _ ∧ _ ∧ _ ∧ _ := by
    simpa only [Prod.mk.injEq] using hvalues'
  obtain ⟨hnodes, hedges⟩ := leaving_out_more_narrows hc hc config (.bool true) (.bool true)
    (.strings ["c.*"]) "/a.ts" 10 quiet quiet (by decide +kernel) ⟨[], rfl⟩ hmore g g' hg hg' hwhole
    hwhole'
  obtain ⟨n', hn', hone⟩ := DependencyGraph.exists_node_of_depthOf? hdepth
  exact ⟨g, g', hg, hg', hkeys, hkeys', hone ▸ hnodes "/b.ts" n' hn', hedges _ _ (by simp [hnext])⟩

end Coselect.Analysis
