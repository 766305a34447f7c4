import Coselect.Proofs.Analysis.OnDisk
import Coselect.Proofs.Path
import Coselect.Proofs.Selection.Client
import Coselect.Proofs.Selection.Register
import Coselect.Selection.Site

/-! What a request to select a root brings into the selection. Files come in along two ways: as
files that others import, which are asked about before they are gone on with, and as tests of files,
about which nothing is asked. -/

namespace Coselect.Selection

open Coselect.Graph

namespace Orchestrator

variable {o o' : Orchestrator} {task : Nat} {root path : String} {purpose : Purpose}
  {u : Update} {log log' : List (String × Purpose)} {c : Call} {g : DependencyGraph}

/-- A call that takes its steps alone leaves no graphs but those it found and its own. -/
theorem Alone.graphs (h : Alone task o o') (hc : o.calls.get? task = some c) :
    ∃ c', o'.calls.get? task = some c' ∧ c'.root = c.root ∧ c'.purpose = c.purpose ∧
      ∀ root g, o'.state.graphs.get? root = some g →
        o.state.graphs.get? root = some g ∨ root = c.root ∧ c.purpose = .apply g := by
  induction h with
  | refl => exact ⟨c, hc, rfl, rfl, fun _ _ => .inl⟩
  | @tail _ o'' _ hs ih =>
    obtain ⟨c', hc', hroot, hpurpose, hgraphs⟩ := ih
    have ha := advance_of_step? hc' hs
    obtain ⟨phase, update, -, hcalls⟩ := ha.calls
    have hself : o''.calls.get? task = some { c' with phase, update } := by
      rw [hcalls, Table.get?_insert_self]
    refine ⟨_, hself, hroot, hpurpose, fun root g hg => ?_⟩
    rcases ha.graphs hg with hg | ⟨rfl, hp⟩
    · exact hgraphs root g hg
    · exact .inr ⟨hroot, hpurpose ▸ hp⟩

theorem Completes.graphs (h : o.Completes root purpose u o')
    (hg : o'.state.graphs.get? path = some g) :
    o.state.graphs.get? path = some g ∨ path = Path.normalize root ∧ purpose = .apply g := by
  cases h with
  | intro _ halone _ _ =>
    obtain ⟨-, -, -, -, hgraphs⟩ := halone.graphs (Table.get?_insert_self ..)
    exact hgraphs path g hg

/-- After a graph is applied, no other one in force brings in a file that was not there before. -/
theorem Completes.applied_of_absent (h : o.Completes root (.apply g) u o') (run : Runs log o)
    (hidle : o.Idle) (run' : Runs log' o') (hidle' : o'.Idle)
    (habsent : o.state.records.get? path = none) :
    ∀ root' g', Selection.applied log' root' = some g' → root' ≠ path → g'.Brings path →
      root' = Path.normalize root ∧ g' = g := by
  intro root' g' hg hne hbrings
  rw [(run'.kept.of_quiet (hidle'.quiet root')).2] at hg
  rcases h.graphs hg with hold | ⟨hroot, happly⟩
  · rw [← (run.kept.of_quiet (hidle.quiet root')).2] at hold
    have hthere := ((run.kept.reflects hidle).selected path).2 ⟨root', g', hold, hne, hbrings⟩
    rw [habsent] at hthere
    exact absurd hthere Bool.false_ne_true
  · cases happly
    exact ⟨hroot, rfl⟩

/-- A file that comes in when a graph is applied is a node of the graph or a test of one, and its
record tells which. -/
theorem Completes.added_apply (h : o.Completes root (.apply g) u o') (run : Runs log o)
    (hidle : o.Idle) (run' : Runs log' o') (hidle' : o'.Idle) (hpath : path ∈ u.added) :
    path ≠ Path.normalize root ∧ g.Brings path ∧ ∃ r, u.metadata.get? path = some r ∧
      (r.kind = .autoDependency ↔ g.nodes.contains path = true) ∧
      (r.kind = .autoDependency ∨ r.kind = .autoTest) := by
  have hfate := h.fate.1 path
  have habsent := (hfate.mem_added_iff.1 hpath).2
  have hafter := run'.kept.reflects hidle'
  have honly := h.applied_of_absent run hidle run' hidle' habsent
  generalize hr : o'.state.records.get? path = after at hfate
  rw [habsent] at hfate
  cases hfate with
  | untouched hnot => exact absurd hpath hnot
  | @appeared r _ _ hmetadata =>
    obtain ⟨root', g', hg', hne, hbrings⟩ := (hafter.selected path).1 (by rw [hr]; rfl)
    obtain ⟨rfl, rfl⟩ := honly _ _ hg' hne hbrings
    obtain ⟨hkind, hkinds⟩ := hafter.kind path r hr
    refine ⟨hne.symm, hbrings, r, hmetadata, hkind.trans ⟨?_, ?_⟩, hkinds⟩
    · rintro ⟨root'', g'', hg'', hne', hnode⟩
      obtain ⟨-, rfl⟩ := honly _ _ hg'' hne' (.inl hnode)
      exact hnode
    · exact fun hnode => ⟨_, _, hg', hne, hnode⟩

end Orchestrator

open Analysis Disk

namespace Service

variable {s s' : Service} {root : String} {request : Nat} {u : Update}
  {r : Except Failure DependencyGraph}

/-- What a request that was not superseded comes to is what applying its graph does. -/
theorem exists_graph_of_finish (h : s.finish root request r = (.ok (some u), s')) :
    ∃ g, r = .ok g ∧ u = (s.orchestrator.apply root g).1 := by
  cases r with
  | error failure => exact nomatch congrArg Prod.fst h
  | ok g =>
    refine ⟨g, rfl, ?_⟩
    unfold finish conclude at h
    rcases haccept : s.accept root request with ⟨accepted, t⟩
    rw [haccept] at h
    cases accepted with
    | false => exact nomatch congrArg Prod.fst h
    | true =>
      rw [← (accept_eq haccept).2.2.2.2.1]
      exact (Option.some.inj (Except.ok.inj (congrArg Prod.fst h))).symm

/-- The end of a request leaves the selection as it was or has one graph applied to it. -/
theorem orchestrator_finish (s : Service) (root : String) (request : Nat)
    (r : Except Failure DependencyGraph) :
    (s.finish root request r).2.orchestrator = s.orchestrator ∨
      ∃ g, (s.finish root request r).2.orchestrator = (s.orchestrator.apply root g).2 := by
  cases r with
  | error failure => exact .inl orchestrator_land
  | ok g =>
    unfold finish conclude
    rcases haccept : s.accept root request with ⟨accepted, t⟩
    rw [← (accept_eq haccept).2.2.2.2.1]
    cases accepted with
    | false => exact .inl rfl
    | true => exact .inr ⟨g, rfl⟩

end Service

namespace Site

variable {s s' : Site} {root path : String} {config : Option Settings.Config} {c : Settings.Config}
  {p : Settings.Policy} {u : Update} {signal : List Query → Signal}

/-- Between two requests no call is in progress. -/
def Settled (s : Site) : Prop :=
  ∃ log, Orchestrator.Runs log s.service.orchestrator ∧ s.service.orchestrator.Idle

theorem Settled.of_perform (h : s.Settled) (root : String) (purpose : Purpose)
    (hs : s'.service.orchestrator = (s.service.orchestrator.perform root purpose).2) :
    s'.Settled := by
  obtain ⟨log, run, hidle⟩ := h
  obtain ⟨-, ⟨log', run'⟩, hidle'⟩ := Orchestrator.completes_perform run hidle root purpose
  exact ⟨log', hs ▸ run', hs ▸ hidle'⟩

/-- The answer of a request to select a root, by the signals that its analysis finds: the time may be
up, or the request superseded. -/
def selectUnder (s : Site) (signal : List Query → Signal) (root : String)
    (config : Option Settings.Config) : Except Failure Answer × Site :=
  match s.service.configFor config with
  | .error f => (.error f, s)
  | .ok c =>
    let root := Path.normalize root
    let (request, service) := s.service.begin root
    let (g, s) := ({ s with service } : Site).run (s.service.analysis root c).run signal
    let (u, service) := s.service.finish root request g
    (u.map .update, { s with service })

/-- A request on its own finds no signal. -/
theorem handle_select (s : Site) (root : String) (config : Option Settings.Config) :
    s.handle (.select root config) = s.selectUnder quiet root config := rfl

theorem selectUnder_eq (hc : s.service.configFor config = .ok c) :
    s.selectUnder signal root config =
      let r := (s.service.analysis (Path.normalize root) c).run.run s.disk signal [] s.caches
      let began := s.service.begin (Path.normalize root)
      let finished := began.2.finish (Path.normalize root) began.1 r.1
      (finished.1.map .update, { s with service := finished.2, caches := r.2 }) := by
  unfold selectUnder
  rw [hc]
  rfl

theorem selectUnder_refused {failure : Failure}
    (hc : s.service.configFor config = .error failure) :
    s.selectUnder signal root config = (.error failure, s) := by
  unfold selectUnder
  rw [hc]

theorem Settled.selectUnder (h : s.Settled) (signal : List Query → Signal) (root : String)
    (config : Option Settings.Config) : (s.selectUnder signal root config).2.Settled := by
  cases hc : s.service.configFor config with
  | error failure => exact selectUnder_refused hc ▸ h
  | ok c =>
    rw [selectUnder_eq hc]
    generalize (s.service.analysis (Path.normalize root) c).run.run s.disk signal [] s.caches = r
    have hstands : (s.service.begin (Path.normalize root)).2.orchestrator =
      s.service.orchestrator := Service.orchestrator_begin
    generalize s.service.begin (Path.normalize root) = began at hstands ⊢
    dsimp only
    rcases began.2.orchestrator_finish (Path.normalize root) began.1 r.1 with
      hsame | ⟨g, happlied⟩
    · obtain ⟨log, run, hidle⟩ := h
      rw [hstands] at hsame
      exact ⟨log, hsame ▸ run, hsame ▸ hidle⟩
    · rw [hstands] at happlied
      exact h.of_perform _ _ happlied

/-- Requests one after the other leave no call behind. -/
theorem Settled.handle (h : s.Settled) (request : Request) : (s.handle request).2.Settled := by
  cases request with
  | analyze root config => exact h
  | deselect root =>
    refine h.of_perform (Path.normalize root) .remove ?_
    change ((s.service.withdraw (Path.normalize root)).orchestrator.remove _).2 = _
    rw [Service.orchestrator_withdraw]
    rfl
  | select root config => exact h.selectUnder quiet root config

/-- A request that brings an update applies the graph of its root. -/
theorem exists_graph_of_select (h : s.selectUnder signal root config = (.ok (.update (some u)), s')) :
    ∃ c g, s.service.configFor config = .ok c ∧
      (s.service.analysis (Path.normalize root) c).run.run s.disk signal [] s.caches =
        (.ok g, s'.caches) ∧
      u = (s.service.orchestrator.apply (Path.normalize root) g).1 := by
  cases hc : s.service.configFor config with
  | error failure =>
    rw [selectUnder_refused hc] at h
    exact nomatch congrArg Prod.fst h
  | ok c =>
    rw [selectUnder_eq hc] at h
    rcases hrun : (s.service.analysis (Path.normalize root) c).run.run s.disk signal [] s.caches with
      ⟨r, caches⟩
    rw [hrun] at h
    dsimp only at h
    rcases hfinish : Service.finish _ (Path.normalize root) _ r with ⟨a, service⟩
    rw [hfinish] at h
    obtain ⟨hanswer, rfl⟩ := Prod.mk.inj h
    cases a with
    | error failure => exact nomatch hanswer
    | ok update =>
      cases hanswer
      obtain ⟨g, rfl, rfl⟩ := Service.exists_graph_of_finish hfinish
      exact ⟨c, g, rfl, hrun, by rw [Service.orchestrator_begin]⟩

/-- How a file comes in with a root: others import it and nothing leaves it out, or it is a test of
the root or of such a file. -/
inductive Enters (d : Volume) (w : Workspace) (p : Settings.Policy) (root : String)
    (accepted : String → Prop) (path : String) : SelectionKind → Prop
  | imported (h : accepted path) : Enters d w p root accepted path .autoDependency
  | listed (node : String) (tests : List String) (hnode : node ≠ root → accepted node)
    (htests : testsOn d w p node = .ok tests) (hmem : path ∈ tests) :
    Enters d w p root accepted path .autoTest

/-- When no tests are looked for, nothing leaves out what comes in. -/
theorem Enters.accepted {d : Volume} {w : Workspace} {accepted : String → Prop}
    {kind : SelectionKind} (h : Enters d w p root accepted path kind)
    (htests : p.includeTests = false) : accepted path := by
  cases h with
  | imported h => exact h
  | listed node tests _ hlisted hmem =>
    have hnone : testsOn d w p node = .ok [] := by
      unfold testsOn testsOf
      rw [htests]
      rfl
    cases hnone.symm.trans hlisted
    exact nomatch hmem

/-- A graph brings in what it leads to. -/
theorem enters_of_chosen {d : Volume} {w : Workspace} {accepted : String → Prop}
    {g : DependencyGraph} {r : Record}
    (h : Chosen root accepted (fun v t => ∃ tests, testsOn d w p v = .ok tests ∧ t ∈ tests) g)
    (hne : path ≠ root) (hbrings : g.Brings path)
    (hnode : r.kind = .autoDependency ↔ g.nodes.contains path = true)
    (hkind : r.kind = .autoDependency ∨ r.kind = .autoTest) :
    Enters d w p root accepted path r.kind := by
  rcases hkind with hkind | hkind
  · rw [hkind]
    exact .imported (h.accepted path (Table.contains_iff_mem_keys.1 (hnode.1 hkind)) hne)
  · rw [hkind]
    rcases hbrings with hthere | ⟨n, hn, hmem⟩
    · exact absurd (hkind.symm.trans (hnode.2 hthere)) (by decide)
    · obtain ⟨v, hv⟩ := Table.mem_values_iff.1 hn
      obtain ⟨tests, htests, ht⟩ := h.tested v n hv path hmem
      exact .listed v tests (h.accepted v (Table.mem_keys_iff.2 (by simp [hv]))) htests ht

/-- Whatever signals its analysis finds, all that a request to select a root adds is files that
nothing leaves out, by the rules in force at the start and by those in force at the end, and tests of
the root or of such files; about the tests themselves nothing is asked. -/
theorem enters_of_added (hs : s.Settled)
    (h : s.selectUnder signal root config = (.ok (.update (some u)), s')) :
    ∃ c p, s.service.configFor config = .ok c ∧ c.policy = .ok p ∧ ∀ path ∈ u.added,
      ∃ r, u.metadata.get? path = some r ∧
        Enters s.disk s.service.workspace p (Path.normalize root)
          (fun v => Accepted s.disk s.service.workspace p.exclusions s.caches v ∧
            Accepted s.disk s.service.workspace p.exclusions s'.caches v) path r.kind := by
  obtain ⟨c, g, hc, hrun, rfl⟩ := exists_graph_of_select h
  obtain ⟨p, hp⟩ := exists_policy_of_analyze (congrArg Prod.fst hrun)
  obtain ⟨I, hstart, hfooting⟩ := footing_still s.disk s.service.workspace p.exclusions s.caches
  have htests : ((Surroundings.still s.disk).under I).Lists s.service.workspace p fun v t =>
      ∃ tests, testsOn s.disk s.service.workspace p v = .ok tests ∧ t ∈ tests :=
    fun v => (gives_testsOf Surroundings.shows_still v).mono fun _ hr tests ht t hmem =>
      ⟨tests, hr ▸ ht, hmem⟩
  have hends := ((hfooting.leads_chosen htests hp (Path.normalize root)
    s.service.workspace.maxNodes).ends_still hstart).run signal []
  unfold Service.analysis at hrun
  rw [hrun] at hends
  obtain ⟨hgraph, hend⟩ := hends
  obtain ⟨-, haccepted, htested⟩ := hgraph g rfl
  rw [Path.normalize_normalize] at haccepted
  refine ⟨c, p, hc, hp, fun path hpath => ?_⟩
  obtain ⟨log, run, hidle⟩ := hs
  obtain ⟨hcompletes, ⟨log', run'⟩, hidle'⟩ :=
    Orchestrator.completes_perform run hidle (Path.normalize root) (.apply g)
  obtain ⟨hne, hbrings, r, hr, hnode, hkind⟩ :=
    hcompletes.added_apply run hidle run' hidle' hpath
  rw [Path.normalize_normalize] at hne
  refine ⟨r, hr, enters_of_chosen ⟨fun v hv hvne => ?_, htested⟩ hne hbrings hnode hkind⟩
  exact ⟨haccepted v hv hvne _ hstart, haccepted v hv hvne _ hend⟩

/-- A file with a test beside it and another file that it imports, where the pattern of the test
leaves files out. -/
def withTest : Site where
  service.workspace := .ofRoot "/"
  service.config :=
    { enabled := .bool true, exclusionPatterns := .strings ["*.test.ts"],
      sourceExtensions := .strings [".ts"] }
  caches := .ofSize 8
  disk.tree := .directory [("a.ts", .file (.text "import './b'") 0),
    ("a.test.ts", .file (.text "") 0), ("b.ts", .file (.text "") 0)]

theorem settled_withTest : withTest.Settled := ⟨[], .initial, nofun⟩

/-- The update of an answer that brings one. -/
def update? : Except Failure Answer → Option Update
  | .ok (.update u) => u
  | _ => none

theorem eq_of_update? {a : Except Failure Answer} (h : update? a = some u) :
    a = .ok (.update (some u)) := by
  match a, h with
  | .ok (.update (some _)), rfl => rfl

theorem select_withTest : ∃ u s', withTest.handle (.select "/a.ts" none) =
      (.ok (.update (some u)), s') ∧ u.added = ["/a.test.ts", "/b.ts"] ∧
    ∀ c ∈ [withTest.caches, s'.caches], ¬ Accepted withTest.disk withTest.service.workspace
      { patterns := { items := ["*.test.ts"] } } c "/a.test.ts" := by
  have hupdate : (update? (withTest.handle (.select "/a.ts" none)).1).map (·.added) =
      some ["/a.test.ts", "/b.ts"] := by decide +kernel
  have hreason : ∀ c ∈ [withTest.caches, (withTest.handle (.select "/a.ts" none)).2.caches],
      ((excludeReason withTest.service.workspace { patterns := { items := ["*.test.ts"] } }
        "/a.test.ts").run.run withTest.disk quiet [] c).1.toOption = some (some .userPattern) := by
    decide +kernel
  rcases hanswer : withTest.handle (.select "/a.ts" none) with ⟨a, s'⟩
  rw [hanswer] at hupdate hreason
  obtain ⟨u, hu, hadded⟩ := Option.map_eq_some_iff.1 hupdate
  cases eq_of_update? hu
  refine ⟨u, s', rfl, hadded, fun c hc haccepted => ?_⟩
  have hnone := congrArg Except.toOption (haccepted quiet [])
  rw [hreason c hc] at hnone
  exact nomatch hnone

theorem enters_of_added_withTest : ∃ u s' c p,
    withTest.handle (.select "/a.ts" none) = (.ok (.update (some u)), s') ∧
    withTest.service.configFor none = .ok c ∧ c.policy = .ok p ∧
    ∀ path ∈ ["/a.test.ts", "/b.ts"], ∃ r, u.metadata.get? path = some r ∧
      Enters withTest.disk withTest.service.workspace p "/a.ts"
        (fun v => Accepted withTest.disk withTest.service.workspace p.exclusions withTest.caches v ∧
          Accepted withTest.disk withTest.service.workspace p.exclusions s'.caches v)
        path r.kind := by
  obtain ⟨u, s', h, hadded, -⟩ := select_withTest
  obtain ⟨c, p, hc, hp, henters⟩ :=
    enters_of_added settled_withTest (handle_select withTest "/a.ts" none ▸ h)
  have hroot : Path.normalize "/a.ts" = "/a.ts" := by decide +kernel
  rw [hadded, hroot] at henters
  exact ⟨u, s', c, p, h, hc, hp, henters⟩

/-- A test comes in although a pattern leaves it out. -/
theorem added_although_left_out : ¬ ∀ root u s' p,
    withTest.handle (.select root none) = (.ok (.update (some u)), s') →
    withTest.service.config.policy = .ok p → ∀ path ∈ u.added,
      Accepted withTest.disk withTest.service.workspace p.exclusions withTest.caches path ∨
        Accepted withTest.disk withTest.service.workspace p.exclusions s'.caches path := by
  intro h
  obtain ⟨u, s', hu, hadded, hleft⟩ := select_withTest
  rcases h "/a.ts" u s' _ hu rfl "/a.test.ts" (by simp [hadded]) with haccepted | haccepted
  · exact hleft _ (by simp) haccepted
  · exact hleft _ (by simp) haccepted

end Site

end Coselect.Selection
