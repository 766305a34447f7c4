import Coselect.Proofs.Analysis.Locating
import Coselect.Proofs.Analysis.OnDisk

/-! Options about tests and what an analysis finds. Tests are looked for while a file is expanded,
behind its imports; as long as this fails for no file of a graph, the tests of its nodes are all
that hangs on these options. -/

namespace Coselect.Graph

/-- The node without its tests. -/
def Node.untested (n : Node) : Node := { n with testFiles := [] }

/-- The graph without the tests of its nodes. -/
def DependencyGraph.untested (g : DependencyGraph) : DependencyGraph :=
  { g with nodes := g.nodes.mapValues Node.untested }

end Coselect.Graph

namespace Coselect.Analysis

open Disk Coselect.Graph Inquiry Imports

variable {F : Findings} {tests : String → Except Failure (List String)} {b : Bounds} {fuel : Nat}
  {s s' : Survey} {path : String}

/-- The survey without the tests of its nodes. -/
def Survey.untested (s : Survey) : Survey := { s with nodes := s.nodes.mapValues Node.untested }

namespace Findings

/-- The same findings but for the tests. -/
def withTests (F : Findings) (tests : String → Except Failure (List String)) : Findings :=
  { F with tests }

theorem target_withTests (importer specifier : String) :
    (F.withTests tests).target importer specifier = F.target importer specifier := rfl

theorem targets_withTests (importer : String) (statements : List Statement) (found : List String)
    (out : LeftOut) : (F.withTests tests).targets importer statements found out =
      F.targets importer statements found out := by
  induction statements generalizing found out with
  | nil => rfl
  | cons s rest ih =>
    simp only [targets, target_withTests, ih]

/-- Where no tests fail to be found, an expansion differs in them alone. -/
theorem untested_expand (h : ∃ t, F.tests path = .ok t) (h' : ∃ t, tests path = .ok t) (depth : Nat)
    (out : LeftOut) :
    ((F.withTests tests).expand path depth out).1.untested = (F.expand path depth out).1.untested ∧
      ((F.withTests tests).expand path depth out).2 = (F.expand path depth out).2 := by
  obtain ⟨t, ht⟩ := h
  obtain ⟨t', ht'⟩ := h'
  have hstatements : (F.withTests tests).statements = F.statements := rfl
  have htests : (F.withTests tests).tests path = .ok t' := ht'
  rw [expand, expand, hstatements]
  cases F.statements path with
  | error failure => exact ⟨rfl, rfl⟩
  | ok statements =>
    dsimp only
    rw [targets_withTests, ht, htests]
    rcases F.targets path statements [] out with ⟨failure | found, out'⟩
    · exact ⟨rfl, rfl⟩
    · exact ⟨rfl, rfl⟩

/-- A turn takes in what is left of a node without its tests. -/
theorem untested_absorb (s : Survey) (node : Node) :
    Prod.map Survey.untested id (s.absorb b node) = s.untested.absorb b node.untested := by
  simp [Survey.absorb, Survey.untested, Node.untested]

theorem untested_turn (h : ∃ t, F.tests path = .ok t) (h' : ∃ t, tests path = .ok t)
    (hs : s'.untested = s.untested) (walk : Walk) :
    Prod.map Survey.untested id ((F.withTests tests).turn b s' path walk) =
      Prod.map Survey.untested id (F.turn b s path walk) := by
  obtain ⟨-, hnodes, hout⟩ := Survey.mk.inj hs
  obtain ⟨hnode, hleft⟩ := untested_expand h h' (walk.depth path) s.leftOut
  simp only [turn, hout]
  rw [untested_absorb, untested_absorb, hnode, hleft]
  simp only [Survey.untested, hnodes]

/-- Nor does a survey, where no tests fail to be found for any of its files. -/
theorem untested_survey (hr : s.walk.Ready) (hs : s'.untested = s.untested)
    (htests : ∀ path ∈ (F.survey b fuel s).1.walk.depths.keys,
      (∃ t, F.tests path = .ok t) ∧ ∃ t, tests path = .ok t) :
    Prod.map Survey.untested id ((F.withTests tests).survey b fuel s') =
      Prod.map Survey.untested id (F.survey b fuel s) := by
  induction fuel generalizing s s' with
  | zero => exact congrArg (·, StopReason.exhausted) hs
  | succ fuel ih =>
    have hkeys := keys_survey F b (fuel + 1) hr
    have hwalk : s'.walk = s.walk := (Survey.mk.inj hs).1
    rw [survey] at htests hkeys ⊢
    rw [survey, hwalk]
    cases hq : s.walk.next? with
    | none => exact congrArg (·, StopReason.exhausted) hs
    | some next =>
      obtain ⟨path, walk⟩ := next
      simp only [hq] at htests hkeys ⊢
      obtain ⟨hpath, hready, -⟩ := ready_turn F b hr hq
      obtain ⟨h, h'⟩ := htests path (hkeys hpath)
      have hturn := untested_turn (b := b) h h' hs walk
      rcases ht : F.turn b s path walk with ⟨s₁, full⟩
      rcases ht' : (F.withTests tests).turn b s' path walk with ⟨s₁', full'⟩
      rw [ht, ht'] at hturn
      obtain ⟨hs₁, rfl⟩ := Prod.mk.inj hturn
      simp only [ht] at htests hready ⊢
      cases full' with
      | true => exact congrArg (·, StopReason.truncated) hs₁
      | false => exact ih hready hs₁ htests

end Findings

theorem untested_selected (root : String) (reason : Option ExcludeReason) (n : Node) :
    (selected root reason n).untested = selected root reason n.untested := by
  by_cases h : n.path = root <;> simp [selected, Node.untested, h]

theorem node_untested (s : Survey) (path : String) (depth : Nat) :
    s.untested.node path depth = (s.node path depth).untested := by
  rw [Survey.node, Survey.node, Survey.untested, Table.get?_mapValues]
  cases s.nodes.get? path <;> rfl

/-- The graph without the tests of its nodes is that of the survey without them. -/
theorem untested_graph (s : Survey) (reason : StopReason) (root : String)
    (rootReason : Option ExcludeReason) :
    (s.graph reason root rootReason).untested = s.untested.graph reason root rootReason := by
  have hnodes : (s.graph reason root rootReason).nodes.mapValues Node.untested =
      (s.untested.graph reason root rootReason).nodes := by
    refine (Table.mapValues_foldl_insert _ _ _ _ _).trans ?_
    simp only [untested_selected, ← node_untested]
    rfl
  have hexcluded : (s.graph reason root rootReason).excluded =
      (s.untested.graph reason root rootReason).excluded := by
    change s.leftOut.keep (fun path => !(s.graph reason root rootReason).nodes.contains path) =
      s.leftOut.keep fun path => !(s.untested.graph reason root rootReason).nodes.contains path
    simp only [← hnodes, Table.contains_mapValues]
  have hreverse : (s.graph reason root rootReason).reverseEdges =
      (s.untested.graph reason root rootReason).reverseEdges := by
    change (s.graph reason root rootReason).reversed =
      (s.untested.graph reason root rootReason).reversed
    rw [DependencyGraph.reversed, DependencyGraph.reversed, ← hnodes, Table.keys_mapValues]
    rfl
  rw [DependencyGraph.untested, hnodes, hexcluded, hreverse]
  rfl

/-- The graphs of findings that differ in the tests alone. -/
theorem Findings.graph_withTests (F : Findings) (tests : String → Except Failure (List String))
    (b : Bounds) (fuel : Nat) (root : String) :
    (∀ f, F.graph b fuel root = .error f ↔ (F.withTests tests).graph b fuel root = .error f) ∧
      ∀ g g', F.graph b fuel root = .ok g → (F.withTests tests).graph b fuel root = .ok g' →
        (∀ path ∈ g.nodes.keys, (∃ t, F.tests path = .ok t) ∧ ∃ t, tests path = .ok t) →
        g'.untested = g.untested := by
  cases hreason : F.reason root with
  | error failure =>
    rw [graph_eq_error hreason, graph_eq_error (F := F.withTests tests) hreason]
    exact ⟨fun f => Iff.rfl, nofun⟩
  | ok rootReason =>
    rw [graph_eq_ok hreason, graph_eq_ok (F := F.withTests tests) hreason]
    refine ⟨fun f => ⟨nofun, nofun⟩, fun g g' hg hg' htests => ?_⟩
    have hsurvey := untested_survey (Walk.ready_start root) rfl fun path hpath =>
      htests path (Except.ok.inj hg ▸ Survey.mem_keys_nodes.2 hpath)
    obtain ⟨hs, hr⟩ := Prod.mk.inj hsurvey
    rw [← Except.ok.inj hg, ← Except.ok.inj hg', untested_graph, untested_graph]
    exact congrArg₂ (fun s r => Survey.graph s r root rootReason) hs hr

/-! ### Two analyses -/

variable {d : Volume} {w : Workspace} {config : Settings.Config} {p : Settings.Policy}

/-- The options with other ones about tests. -/
def withTestOptions (config : Settings.Config) (includeTests testFilePatterns : Json) :
    Settings.Config :=
  { config with includeTests, testFilePatterns }

/-- The policy of options does not hang on those about tests, but for what it says about tests. -/
theorem policy_withTestOptions (config : Settings.Config) (includeTests testFilePatterns : Json) :
    (withTestOptions config includeTests testFilePatterns).policy = config.policy.map fun p =>
      { p with
        includeTests := includeTests.isTruthy
        testFilePatterns := Settings.Config.textsOf Settings.Config.noPattern testFilePatterns } := by
  unfold Settings.Config.policy
  have hdepth : (withTestOptions config includeTests testFilePatterns).depth = config.depth := rfl
  have hundotted : (withTestOptions config includeTests testFilePatterns).undotted? =
      config.undotted? := rfl
  have hsuffixes : (withTestOptions config includeTests testFilePatterns).suffixes =
      config.suffixes := rfl
  rw [hdepth, hundotted, hsuffixes]
  cases config.depth with
  | error f => rfl
  | ok depth =>
    cases config.undotted? with
    | some suffix => rfl
    | none => cases config.suffixes <;> rfl

/-- Tests are found for a file, or there are none to look for. -/
def TestsFound (d : Volume) (w : Workspace) (config : Settings.Config) (path : String) : Prop :=
  ∀ p, config.policy = .ok p → ∃ tests, testsOn d w p path = .ok tests

theorem testFilePatterns_of_policy (hp : config.policy = .ok p) : p.testFilePatterns =
    Settings.Config.textsOf Settings.Config.noPattern config.testFilePatterns := by
  have hpolicy := policy_withTestOptions config config.includeTests config.testFilePatterns
  rw [hp] at hpolicy
  exact congrArg Settings.Policy.testFilePatterns (Except.ok.inj (hp.symm.trans hpolicy))

/-- Tests are found where the patterns for them are texts and none of them has a segment that does
not compile. -/
theorem testsFound_of_wellFormed (texts : Settings.Texts) {path : String}
    (htexts : Settings.Config.textsOf Settings.Config.noPattern config.testFilePatterns = texts)
    (hcomplete : texts.failure = none)
    (hpatterns : ∀ pattern ∈ texts.items, (Glob.excess? pattern.toList).isSome = false →
      WellFormed (expandTestPattern w.root pattern (Path.normalize path))) :
    TestsFound d w config path := by
  intro p hp
  have htests : (testsOf w p path).Succeeds := by
    rw [testsOf, testFilePatterns_of_policy hp, htexts]
    by_cases h : p.includeTests = true
    · rw [if_pos h]
      exact succeeds_locateTests hcomplete hpatterns
    · rw [if_neg h]
      exact Work.succeeds_pure _
  exact htests.run d quiet [] _

theorem graphOn_withTestOptions (d : Volume) (w : Workspace) (config : Settings.Config)
    (includeTests testFilePatterns : Json) (root : String) (maxNodes : Nat) :
    let config' := withTestOptions config includeTests testFilePatterns
    (∀ f, graphOn d w config root maxNodes = .error f ↔
        graphOn d w config' root maxNodes = .error f) ∧
      ∀ g g', graphOn d w config root maxNodes = .ok g →
        graphOn d w config' root maxNodes = .ok g' →
        (∀ path ∈ g.nodes.keys, TestsFound d w config path ∧ TestsFound d w config' path) →
        g'.untested = g.untested := by
  intro config'
  have hpolicy := policy_withTestOptions config includeTests testFilePatterns
  cases hp : config.policy with
  | error f =>
    rw [hp] at hpolicy
    rw [graphOn, graphOn, hp, hpolicy]
    refine ⟨fun _ => Iff.rfl, fun g _ hg => ?_⟩
    cases hg
  | ok p =>
    rw [hp] at hpolicy
    cases hm : aliasesOn d w with
    | error f =>
      rw [graphOn_eq_error hp hm, graphOn_eq_error hpolicy hm]
      refine ⟨fun _ => Iff.rfl, fun g _ hg => ?_⟩
      cases hg
    | ok m =>
      rw [graphOn_eq hp hm, graphOn_eq hpolicy hm]
      obtain ⟨hfails, hagree⟩ := (findingsOn d w p m).graph_withTests (testsOn d w _)
        ⟨p.maxDepth, some maxNodes⟩ (maxNodes + 2) (Path.normalize root)
      exact ⟨hfails, fun g g' hg hg' htests => hagree g g' hg hg' fun path hpath =>
        ⟨(htests path hpath).1 p hp, (htests path hpath).2 _ hpolicy⟩⟩

/-- What options about tests change on a disk that does not change: an analysis fails alike, and as
long as looking for tests fails for no file of the graph, all but the tests of its nodes is the
same, in two analyses that are not stopped. -/
theorem tests_change_no_dependencies {c c' : Caches}
    (hc : Drawn (rulesOn d w) (Told (aliasesOn d w)) (Stocked fun _ => d) c)
    (hc' : Drawn (rulesOn d w) (Told (aliasesOn d w)) (Stocked fun _ => d) c')
    (config : Settings.Config) (includeTests testFilePatterns : Json) (root : String) (maxNodes : Nat)
    (signal signal' : List Query → Signal) :
    let config' := withTestOptions config includeTests testFilePatterns
    let r := ((analyze w config root maxNodes).run.run d signal [] c).1
    let r' := ((analyze w config' root maxNodes).run.run d signal' [] c').1
    (∀ f, r = .error f ↔ r' = .error f) ∧
      ∀ g g', r = .ok g → r' = .ok g' → g.timedOut = false → g.cancelled = false →
        g'.timedOut = false → g'.cancelled = false →
        (∀ path ∈ g.nodes.keys, TestsFound d w config path ∧ TestsFound d w config' path) →
        g'.untested = g.untested := by
  intro config' r r'
  have hr : Expected _ _ r := expected_analyze hc config root maxNodes signal
  have hr' : Expected _ _ r' := expected_analyze hc' config' root maxNodes signal'
  obtain ⟨hfails, hagree⟩ :=
    graphOn_withTestOptions d w config includeTests testFilePatterns root maxNodes
  refine ⟨fun f => ((hr.error_iff f).trans (hfails f)).trans (hr'.error_iff f).symm, ?_⟩
  intro g g' hg hg' htime hcancel htime' hcancel' htests
  rw [hg] at hr
  rw [hg'] at hr'
  exact hagree g g' (hr.eq_ok htime hcancel) (hr'.eq_ok htime' hcancel') htests

/-- A file that imports another one, which has a test under an own name. -/
def withCheck : Volume where
  tree := .directory [("a.ts", .file (.text "import './b'") 0), ("b.ts", .file (.text "") 0),
    ("b.check.ts", .file (.text "") 0)]

theorem tests_change_no_dependencies_own_pattern :
    let w := Workspace.ofRoot "/"
    let config : Settings.Config :=
      { includeTests := .bool false, sourceExtensions := .strings [".ts"] }
    let config' := withTestOptions config (.bool true) (.strings ["\x7bname\x7d.check.ts"])
    let r := ((analyze w config "/a.ts" 10).run.run withCheck quiet [] (.ofSize 8)).1
    let r' := ((analyze w config' "/a.ts" 10).run.run withCheck quiet [] (.ofSize 8)).1
    ∃ g g', r = .ok g ∧ r' = .ok g' ∧ g.nodes.keys = ["/a.ts", "/b.ts"] ∧
      (g'.nodes.get? "/b.ts").map (·.testFiles) = some ["/b.check.ts"] ∧ g'.untested = g.untested := by
  intro w config config' r r'
  have hwell : ∀ path ∈ ["/a.ts", "/b.ts"], ∀ pattern ∈ ["\x7bname\x7d.check.ts"],
      WellFormed (expandTestPattern w.root pattern (Path.normalize path)) := by decide +kernel
  have hfound : ∀ path ∈ ["/a.ts", "/b.ts"],
      TestsFound withCheck w config path ∧ TestsFound withCheck w config' path := fun path hpath =>
    ⟨testsFound_of_wellFormed {} rfl rfl nofun,
      testsFound_of_wellFormed { items := ["\x7bname\x7d.check.ts"] } rfl rfl
        fun pattern hpattern _ => hwell path hpath pattern hpattern⟩
  have hc : Drawn (rulesOn withCheck w) (Told (aliasesOn withCheck w)) (Stocked fun _ => withCheck)
      (.ofSize 8) := drawn_ofSize (by decide) _
  obtain ⟨-, hsame⟩ := tests_change_no_dependencies hc hc config (.bool true)
    (.strings ["\x7bname\x7d.check.ts"]) "/a.ts" 10 quiet quiet
  have hgraph : r.toOption.map (fun g => (g.nodes.keys, g.timedOut, g.cancelled)) =
      some (["/a.ts", "/b.ts"], false, false) := by decide +kernel
  have hgraph' : r'.toOption.map (fun g => ((g.nodes.get? "/b.ts").map (·.testFiles), g.timedOut,
      g.cancelled)) = some (some ["/b.check.ts"], false, false) := by decide +kernel
  obtain ⟨g, hg, hvalues⟩ := exists_ok_of_map hgraph
  obtain ⟨g', hg', hvalues'⟩ := exists_ok_of_map hgraph'
  obtain ⟨hkeys, htime, hcancel⟩ : _ ∧ _ ∧ _ := by simpa only [Prod.mk.injEq] using hvalues
  obtain ⟨htests, htime', hcancel'⟩ : _ ∧ _ ∧ _ := by simpa only [Prod.mk.injEq] using hvalues'
  exact ⟨g, g', hg, hg', hkeys, htests, hsame g g' hg hg' htime hcancel htime' hcancel'
    (hkeys ▸ hfound)⟩

/-- A pattern with a reversed range takes the imports from every file that is no test itself. -/
theorem reversed_range_takes_imports :
    let w := Workspace.ofRoot "/"
    let config : Settings.Config :=
      { includeTests := .bool false, sourceExtensions := .strings [".ts"] }
    ¬ ∀ testFilePatterns g g',
      ((analyze w config "/a.ts" 10).run.run withCheck quiet [] (.ofSize 8)).1 = .ok g →
      ((analyze w (withTestOptions config (.bool true) testFilePatterns) "/a.ts" 10).run.run withCheck
        quiet [] (.ofSize 8)).1 = .ok g' →
      g.timedOut = false → g.cancelled = false → g'.timedOut = false → g'.cancelled = false →
      g'.nodes.keys = g.nodes.keys := by
  intro w config h
  have hgraph : ((analyze w config "/a.ts" 10).run.run withCheck quiet [] (.ofSize 8)).1.toOption.map
      (fun g => (g.nodes.keys, g.timedOut, g.cancelled)) = some (["/a.ts", "/b.ts"], false, false) := by
    decide +kernel
  have hgraph' : ((analyze w (withTestOptions config (.bool true) (.strings ["[z-a].ts"])) "/a.ts"
      10).run.run withCheck quiet [] (.ofSize 8)).1.toOption.map
      (fun g => (g.nodes.keys, g.timedOut, g.cancelled)) = some (["/a.ts"], false, false) := by
    decide +kernel
  obtain ⟨g, hg, hvalues⟩ := exists_ok_of_map hgraph
  obtain ⟨g', hg', hvalues'⟩ := exists_ok_of_map hgraph'
  obtain ⟨hkeys, htime, hcancel⟩ : _ ∧ _ ∧ _ := by simpa only [Prod.mk.injEq] using hvalues
  obtain ⟨hkeys', htime', hcancel'⟩ : _ ∧ _ ∧ _ := by simpa only [Prod.mk.injEq] using hvalues'
  have hsame := h _ g g' hg hg' htime hcancel htime' hcancel'
  rw [hkeys, hkeys'] at hsame
  exact absurd hsame (by decide)

end Coselect.Analysis
