import Coselect.Proofs.Analysis.Analyze
import Coselect.Proofs.Analysis.Drawn
import Coselect.Proofs.Analysis.Findings

/-! The graph of a root on a disk, from what the disk holds and without caches. An analysis whose
caches hold nothing else comes to this graph, unless it is stopped. -/

namespace Coselect.Analysis

open Disk Coselect.Graph Inquiry Imports

/-- Looks find no signal. -/
def quiet (_ : List Query) : Signal := {}

/-- Whether a specifier names a package under a mapping. -/
def isPackage (m : Alias.Mapping) (specifier : String) : Bool :=
  !isRelative specifier && !m.takes specifier

/-- The file that one of some places stands for. -/
def findAmongOn (d : Volume) (places : List String) : Option String :=
  places.findSome? fun place => (probes place).find? d.isFile

/-- The file that a specifier leads to under a mapping. -/
def leadOn (d : Volume) (m : Alias.Mapping) (specifier importer : String) : Option String :=
  if isPackage m specifier then none else findAmongOn d (places m specifier importer)

/-- The tests of a file. -/
def testsOn (d : Volume) (w : Workspace) (p : Settings.Policy) (path : String) :
    Except Failure (List String) :=
  ((testsOf w p path).run.run d quiet [] (.ofSize 0)).1

/-- What the parts of an analysis come to on a disk. -/
def findingsOn (d : Volume) (w : Workspace) (p : Settings.Policy) (m : Alias.Mapping) : Findings where
  statements := importsOn d w p.sourceExtensions
  lead := leadOn d m
  reason := verdict w p.exclusions (rulesOn d w) (compiled p.exclusions.patterns)
  tests := testsOn d w p

/-- The graph of a root on a disk. -/
def graphOn (d : Volume) (w : Workspace) (config : Settings.Config) (root : String) (maxNodes : Nat) :
    Except Failure DependencyGraph := do
  let p ← config.policy
  let m ← aliasesOn d w
  (findingsOn d w p m).graph ⟨p.maxDepth, some maxNodes⟩ (maxNodes + 2) (Path.normalize root)

variable {T : Terms} {e : Surroundings} {d : Volume} {disk : Nat → Volume} {n : Nat} {w : Workspace}
  {p : Settings.Policy} {F : Findings} {b : Bounds} {config : Settings.Config} {root : String}
  {maxNodes : Nat} {rules : Except Failure Ignore.Rules} {A : Option Alias.Mapping → Prop}
  {J : Imports.Cache Stamp → Prop} {m : Alias.Mapping} {c : Caches} {path specifier importer : String}

/-! ### Specifiers -/

theorem gives_findAmong (hd : T.Shows d) (places : List String) :
    (findAmong places).Gives T (findAmongOn d places) := by
  induction places with
  | nil => exact gives_pure
  | cons place places ih =>
    unfold findAmong findFile
    rw [findAmongOn, List.findSome?_cons]
    -- the probes of a place are many, and what they are does not matter
    generalize probes place = paths
    refine Gives.bind (gives_firstFile fun path _ => ⟨hd _, hd _⟩) ?_
    cases paths.find? d.isFile with
    | none => exact ih
    | some path => exact gives_pure

theorem isExternal_eq (hc : c.aliases = some m) : c.isExternal specifier = isPackage m specifier := by
  simp [Caches.isExternal, isPackage, isRelative, hc, Bool.and_assoc]

/-- A specifier that the mapping has no part in is taken for the same whether or not the mapping is
loaded. -/
theorem isExternal_eq_of_plain (hplain : isRelative specifier = true ∨ m.takes specifier = false)
    (hc : ∀ a, c.aliases = some a → a = m) : c.isExternal specifier = isPackage m specifier := by
  cases haliases : c.aliases with
  | some a => exact isExternal_eq (haliases.trans (congrArg some (hc a haliases)))
  | none =>
    rcases hplain with hrelative | htakes
    · simp only [isRelative, Bool.or_eq_true] at hrelative
      rcases hrelative with h | h <;> simp [Caches.isExternal, isPackage, isRelative, h]
    · simp [Caches.isExternal, isPackage, isRelative, haliases, htakes]

/-- A specifier leads to its file where loading the mapping comes to it, and the caches tell
packages as the mapping does. -/
theorem gives_resolve (hd : T.Shows d)
    (hload : (loadAliases w.root w.mappingFile).run.Gives T (.ok m))
    (hexternal : ∀ c, T.met c → c.isExternal specifier = isPackage m specifier) :
    (resolve w.root w.mappingFile specifier importer).Gives T (leadOn d m specifier importer) := by
  refine leads_caches.bind fun c hc => ?_
  rw [hexternal c hc, leadOn]
  split
  next => exact gives_pure
  next => exact Gives.bind hload (gives_findAmong hd _)

/-! ### The parts of an analysis -/

theorem gives_testsOf (hd : T.Shows d) (path : String) :
    (testsOf w p path).run.Gives T (testsOn d w p path) :=
  (confined_testsOf w p path).gives hd _ _ _

section Drawn

variable (hd : (e.under (Drawn rules A (Stocked disk))).Shows (disk n))
  (hdisk : ∀ path, Versioned disk path)

include hd hdisk

theorem hold_findingsOn (hrules : rulesOn (disk n) w = rules) (p : Settings.Policy)
    (m : Alias.Mapping) :
    (findingsOn (disk n) w p m).Hold (e.under (Drawn rules A (Stocked disk))) w p := by
  subst hrules
  exact ⟨fun path => gives_importsOf hd (hdisk path) _, gives_excludeReason (hd.tells w),
    gives_testsOf hd⟩

theorem footing_drawn (hrules : rulesOn (disk n) w = rules)
    (hload : (loadAliases w.root w.mappingFile).run.Leads (e.under (Drawn rules A (Stocked disk)))
      fun _ => True) :
    Footing (e.under (Drawn rules A (Stocked disk))) w p.exclusions fun path =>
      verdict w p.exclusions rules (compiled p.exclusions.patterns) path = .ok none := by
  subst hrules
  exact ⟨fun suffixes path => (gives_importsOf hd (hdisk path) suffixes).leads trivial, hload,
    fun path => (gives_excludeReason (hd.tells w) path).leads id⟩

end Drawn

/-- Where the mapping is there, every specifier leads to its file. -/
theorem led_of_loaded (hd : (e.under (Drawn rules (· = some m) J)).Shows d) (p : Settings.Policy)
    (path : String) : (findingsOn d w p m).Led (e.under (Drawn rules (· = some m) J)) w path := by
  intro statements _ s _
  exact gives_resolve hd gives_loadAliases_loaded fun c hc => isExternal_eq hc.aliases

/-- Where the mapping may be dropped and loaded again, a file's specifiers lead to their files if
the mapping has no part in them. -/
theorem led_of_plain (hd : (e.under (Drawn rules (Told (aliasesOn d w)) J)).Shows d)
    (hm : aliasesOn d w = .ok m)
    (hplain : ∀ statements, importsOn d w p.sourceExtensions path = .ok statements →
      ∀ s ∈ statements, isRelative s.source = true ∨ m.takes s.source = false) :
    (findingsOn d w p m).Led (e.under (Drawn rules (Told (aliasesOn d w)) J)) w path := by
  intro statements hstatements s hs
  refine gives_resolve hd (hm ▸ gives_loadAliases_told (hd.tells w)) fun c hc => ?_
  exact isExternal_eq_of_plain (hplain statements hstatements s hs) fun a ha =>
    Except.ok.inj ((hc.aliases a ha).symm.trans hm)

/-! ### The analysis -/

/-- An analysis behind the load of the mapping. -/
def graphOf (w : Workspace) (p : Settings.Policy) (root : String) (maxNodes : Nat) :
    Work DependencyGraph := do
  let (s, reason) ←
    Work.ofInquiry (survey w p ⟨p.maxDepth, some maxNodes⟩ (maxNodes + 2) { walk := .start root })
  return s.graph reason root (← excludeReason w p.exclusions root)

theorem analyze_eq (hp : config.policy = .ok p) : analyze w config root maxNodes = (do
    let _ ← loadAliases w.root w.mappingFile
    graphOf w p (Path.normalize root) maxNodes) := by
  unfold analyze graphOf
  rw [hp]

theorem exists_ok_of_map {α β ε : Type} {x : Except ε α} {f : α → β} {v : β}
    (h : x.toOption.map f = some v) : ∃ a, x = .ok a ∧ f a = v := by
  cases x with
  | error e => exact nomatch h
  | ok a => exact ⟨a, rfl, Option.some.inj h⟩

/-- A result is the expected one, or in place of the expected graph there is one that says that the
analysis was stopped, where there are signals for that. -/
def Expected (signals : Signal → Prop) (v r : Except Failure DependencyGraph) : Prop :=
  r = v ∨ ∃ g g', v = .ok g ∧ r = .ok g' ∧
    (g'.timedOut = true ∧ (∃ s, signals s ∧ s.expired = true) ∨
      g'.cancelled = true ∧ ∃ s, signals s ∧ s.cancelled = true)

theorem Expected.error_iff {signals : Signal → Prop} {v r : Except Failure DependencyGraph}
    (h : Expected signals v r) (f : Failure) : r = .error f ↔ v = .error f := by
  rcases h with rfl | ⟨g, g', rfl, rfl, -⟩
  · rfl
  · exact ⟨nofun, nofun⟩

/-- A graph that does not say that the analysis was stopped is the expected one. -/
theorem Expected.eq_ok {signals : Signal → Prop} {v : Except Failure DependencyGraph}
    {g : DependencyGraph} (h : Expected signals v (.ok g)) (htime : g.timedOut = false)
    (hcancel : g.cancelled = false) : v = .ok g := by
  rcases h with rfl | ⟨_, g', -, heq, hflag⟩
  · rfl
  · obtain rfl := Except.ok.inj heq
    rw [htime, hcancel] at hflag
    rcases hflag with ⟨hfalse, -⟩ | ⟨hfalse, -⟩ <;> exact absurd hfalse Bool.false_ne_true

theorem Expected.eq_of_quiet {v r : Except Failure DependencyGraph}
    (h : Expected (fun s => ∃ asked, quiet asked = s) v r) : r = v := by
  rcases h with h | ⟨_, _, -, -, ⟨-, _, ⟨_, rfl⟩, hexpired⟩ | ⟨-, _, ⟨_, rfl⟩, hcancelled⟩⟩
  · exact h
  · exact absurd hexpired Bool.false_ne_true
  · exact absurd hcancelled Bool.false_ne_true

namespace Findings

/-- Behind the load of the mapping an analysis comes to the graph of the findings, where they hold
for all files of this graph. -/
theorem Hold.leads_graphOf {B : String → Prop} (h : F.Hold T w p)
    (hfooting : Footing T w p.exclusions B) (root : String) (maxNodes : Nat)
    (hled : ∀ g, F.graph ⟨p.maxDepth, some maxNodes⟩ (maxNodes + 2) root = .ok g →
      ∀ path ∈ g.nodes.keys, F.Led T w path) :
    (graphOf w p root maxNodes).run.Leads T
      (Expected T.signals (F.graph ⟨p.maxDepth, some maxNodes⟩ (maxNodes + 2) root)) := by
  cases hreason : F.reason root with
  | error failure =>
    -- what the survey comes to does not matter
    have hstart := Survey.Sound.start ⟨p.maxDepth, some maxNodes⟩ root B fun _ _ => True
    refine Work.leads_ofInquiry_bind (hfooting.leads_survey lists_true _ hstart (Walk.ready_start root)
      ⟨maxNodes, rfl, by simp⟩) fun r _ => ?_
    rw [graph_eq_error hreason]
    exact (Work.gives_bind_error (hreason ▸ h.reason root)).leads (.inl rfl)
  | ok rootReason =>
    have hgraph : F.graph ⟨p.maxDepth, some maxNodes⟩ (maxNodes + 2) root = _ := graph_eq_ok hreason
    have hsurvey := h.leads_survey (Walk.ready_start root) fun path hpath =>
      hled _ hgraph path (Survey.mem_keys_nodes.2 hpath)
    refine Work.leads_ofInquiry_bind hsurvey ?_
    rintro ⟨s, reason⟩ hs
    have hroot := h.reason root
    rw [hreason] at hroot
    refine (Work.gives_bind hroot gives_pure).leads ?_
    rcases hs with (⟨rfl, hexpire⟩ | ⟨rfl, hcancel⟩) | hs
    · exact .inr ⟨_, _, hgraph, rfl, .inl ⟨rfl, hexpire⟩⟩
    · exact .inr ⟨_, _, hgraph, rfl, .inr ⟨rfl, hcancel⟩⟩
    · rw [hgraph, surveyOf, ← hs]
      exact .inl rfl

end Findings

/-- The graph of a root, where the options hold and the mapping loads. -/
theorem graphOn_eq (hp : config.policy = .ok p) (hm : aliasesOn d w = .ok m) :
    graphOn d w config root maxNodes = (findingsOn d w p m).graph ⟨p.maxDepth, some maxNodes⟩
      (maxNodes + 2) (Path.normalize root) := by
  rw [graphOn, hp, hm]
  rfl

theorem graphOn_eq_error {failure : Failure} (hp : config.policy = .ok p)
    (hm : aliasesOn d w = .error failure) : graphOn d w config root maxNodes = .error failure := by
  rw [graphOn, hp, hm]
  rfl

/-- Caches that satisfy a condition go on to satisfy it, and keep the aliases they have. -/
def Kept (I : Caches → Prop) (c c' : Caches) : Prop :=
  I c → I c' ∧ ∀ m, c.aliases = some m → c'.aliases = some m

/-- An analysis whose caches hold nothing but what would be loaded comes to the graph of its root, and
leaves such caches, where others keep them so and keep the aliases. -/
theorem ends_analyze_graphOn {aliases : Except Failure Alias.Mapping}
    (hd : ∀ q r, e.answers q r → r = (disk n).answer q) (hdisk : ∀ path, Versioned disk path)
    (haliases : aliasesOn (disk n) w = aliases) (hrules : rulesOn (disk n) w = rules)
    (hothers : ∀ c c', e.others c c' → Kept (Drawn rules (Told aliases) (Stocked disk)) c c')
    (hc : Drawn rules (Told aliases) (Stocked disk) c) :
    (analyze w config root maxNodes).run.Ends e c fun r c' =>
      Drawn rules (Told aliases) (Stocked disk) c' ∧
        Expected e.signals (graphOn (disk n) w config root maxNodes) r := by
  subst haliases
  have hshows : ∀ {I}, (e.under I).Shows (disk n) := hd
  cases hp : config.policy with
  | error failure =>
    unfold analyze
    rw [graphOn, hp]
    exact ⟨hc, .inl rfl⟩
  | ok p =>
    rw [analyze_eq hp]
    have hload := (gives_loadAliases_told (hshows.tells w)).ends
      (fun c c' h hc => (hothers c c' h hc).1) hc
    refine Work.ends_bind.2 ((hload.and (ends_loadAliases ..)).mono ?_)
    rintro _ c₁ ⟨⟨rfl, hc₁⟩, hloaded⟩
    cases hm : aliasesOn (disk n) w with
    | error failure =>
      exact ⟨hm ▸ hc₁, .inl (graphOn_eq_error hp hm).symm⟩
    | ok m =>
      have hgraph := (hold_findingsOn hshows hdisk hrules p m).leads_graphOf
        (footing_drawn hshows hdisk hrules (gives_loadAliases_loaded.leads trivial))
        (Path.normalize root) maxNodes fun _ _ path _ => led_of_loaded hshows p path
      have hstays : ∀ c c', e.others c c' → Drawn rules (· = some m) (Stocked disk) c →
          Drawn rules (· = some m) (Stocked disk) c' := by
        intro c c' h hc
        obtain ⟨hdrawn, hsame⟩ := hothers c c' h (hc.of_aliases (hc.aliases ▸ .of_eq hm))
        exact hdrawn.of_aliases (hsame m hc.aliases)
      refine (hgraph.ends hstays (hc₁.of_aliases (hloaded m hm))).mono ?_
      rintro r c₂ ⟨hr, hc₂⟩
      rw [graphOn_eq hp hm]
      exact ⟨hc₂.of_aliases (hc₂.aliases ▸ .of_eq rfl), hr⟩

/-- Alone with a disk, others leave the caches as they are. -/
theorem ends_analyze_alone {signal : List Query → Signal} {aliases : Except Failure Alias.Mapping}
    (hdisk : ∀ path, Versioned disk path) (haliases : aliasesOn (disk n) w = aliases)
    (hrules : rulesOn (disk n) w = rules) (hc : Drawn rules (Told aliases) (Stocked disk) c) :
    (analyze w config root maxNodes).run.Ends (.alone (disk n) signal) c fun r c' =>
      Drawn rules (Told aliases) (Stocked disk) c' ∧
        Expected (fun s => ∃ asked, signal asked = s) (graphOn (disk n) w config root maxNodes) r := by
  refine ends_analyze_graphOn (fun _ _ => id) hdisk haliases hrules ?_ hc
  rintro c _ rfl hc
  exact ⟨hc, fun _ => id⟩

/-- An analysis on a disk that does not change comes to the graph of its root, unless it is
stopped. -/
theorem expected_analyze (hc : Drawn (rulesOn d w) (Told (aliasesOn d w)) (Stocked fun _ => d) c)
    (config : Settings.Config) (root : String) (maxNodes : Nat) (signal : List Query → Signal) :
    Expected (fun s => ∃ asked, signal asked = s) (graphOn d w config root maxNodes)
      ((analyze w config root maxNodes).run.run d signal [] c).1 := by
  have hdisk : ∀ path, Versioned (fun _ => d) path := fun path _ _ _ _ _ => rfl
  exact ((ends_analyze_alone (n := 0) hdisk rfl rfl hc).run_alone []).2

end Coselect.Analysis
