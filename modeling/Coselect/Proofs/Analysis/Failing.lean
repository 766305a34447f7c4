import Coselect.Proofs.Analysis.Analyze

/-! When an analysis comes to no graph. What goes wrong with a file that is expanded stays on its
node; but the alias mapping is loaded before the first file, and whether the root itself would be
left out is asked behind the last one, and what fails there fails the analysis. -/

namespace Coselect.Analysis

open Disk Coselect.Graph Inquiry

variable {d : Volume} {w : Workspace} {x : Settings.Exclusions} {I : Caches → Prop}
  {c c₀ : Caches} {config : Settings.Config} {root : String} {f : Failure}

/-- What an analysis asks about its root, whatever its files are. -/
def rootReason (d : Volume) (w : Workspace) (c : Caches) (config : Settings.Config) (root : String) :
    Except Failure (Option ExcludeReason) := do
  let p ← config.policy
  let _ ← aliasesInForce (aliasesOn d w) c
  verdict w p.exclusions (rulesInForce (rulesOn d w) c)
    (patternsInForce p.exclusions.patterns c) (Path.normalize root)

/-- Only what is asked about the root fails an analysis. -/
theorem ends_analyze_error (maxNodes : Nat) : (analyze w config root maxNodes).run.Ends (.still d) c
    fun r _ => ∀ f, r = .error f ↔ rootReason d w c config root = .error f := by
  have hfailed : ∀ {failure : Failure}, rootReason d w c config root = .error failure → ∀ f,
      (.error failure : Except Failure DependencyGraph) = .error f ↔
        rootReason d w c config root = .error f := by
    rintro failure hfailure f
    simp [hfailure]
  unfold analyze
  cases hp : config.policy with
  | error failure => exact hfailed (by rw [rootReason, hp]; rfl)
  | ok p =>
    have hsteady := steady_inForce (.still d) (rulesOn d w) p.exclusions.patterns c
    have hfooting := footing_inForce d w p.exclusions c
    have haliases : (loadAliases w.root w.mappingFile).run.Gives ((Surroundings.still d).under
        fun c' => InForce (rulesOn d w) p.exclusions.patterns c c' ∧
          aliasesInForce (aliasesOn d w) c' = aliasesInForce (aliasesOn d w) c)
        (aliasesInForce (aliasesOn d w) c) := by
      refine gives_loadAliases (Surroundings.shows_still.tells w) (fun c' hc' => hc'.2)
        fun a hread ha c' hc' => ⟨⟨hc'.1.rules, hc'.1.patterns⟩, ?_⟩
      rw [hread, ha]
      rfl
    refine Work.ends_bind.2 ((haliases.ends_still ⟨⟨rfl, rfl⟩, rfl⟩).mono ?_)
    rintro _ c₁ ⟨rfl, hc₁, -⟩
    cases hm : aliasesInForce (aliasesOn d w) c with
    | error failure => exact hfailed (by rw [rootReason, hp, hm]; rfl)
    | ok m =>
      have hreason : rootReason d w c config root = verdict w p.exclusions
          (rulesInForce (rulesOn d w) c) (patternsInForce p.exclusions.patterns c)
          (Path.normalize root) := by
        rw [rootReason, hp, hm]
        rfl
      refine Work.ends_bind.2 (Work.ends_ofInquiry.2 ?_)
      have hstart := Survey.Sound.start ⟨p.maxDepth, some maxNodes⟩ (Path.normalize root)
      have hsurvey := hfooting.leads_survey lists_true (maxNodes + 2) (hstart _ _) (Walk.ready_start _)
        ⟨maxNodes, rfl, by simp⟩
      refine (hsurvey.ends_still hc₁).mono ?_
      rintro ⟨s, reason⟩ c₂ ⟨-, hc₂⟩
      have hroot := hsteady.gives_excludeReason
        (gives_readRules (Surroundings.shows_still.tells w)) (Path.normalize root)
      refine Work.ends_bind.2 ((hroot.ends_still hc₂).mono ?_)
      rintro _ _ ⟨rfl, -⟩
      rw [← hreason]
      cases hr : rootReason d w c config root with
      | error failure => exact fun f => by simp
      | ok rootReason => exact fun f => ⟨nofun, nofun⟩

/-- The failures that a disk and the options of an analysis may hold. -/
inductive Escaping (d : Volume) (x : Settings.Exclusions) : Failure → Prop
  /-- The base directory of the alias mapping is no text. -/
  | baseDirectory : Escaping d x .notAText
  /-- The disk's files are in no encoding. -/
  | encoding : Text.Encoding.named? d.encoding = none → Escaping d x (.unknownEncoding d.encoding)
  /-- A line of an ignore file or one of the user's patterns is ill formed. -/
  | pattern (message : String) : Escaping d x (.illFormedPattern message)
  /-- Not all of the user's patterns are texts. -/
  | noText {f : Failure} : x.patterns.failure = some f → Escaping d x f

section Escaping

variable {α β : Type} {path : String} {rules made : Except Failure Ignore.Rules}

theorem bind_eq_error_iff {r : Except Failure α} {g : α → Except Failure β} :
    r >>= g = .error f ↔ r = .error f ∨ ∃ a, r = .ok a ∧ g a = .error f := by
  cases r <;> simp [Bind.bind, Except.bind]

theorem escaping_textOn (h : textOn d path = .error f) : Escaping d x f := by
  unfold textOn Volume.read at h
  split at h
  next => contradiction
  next => contradiction
  next name hread =>
    cases h
    split at hread
    next =>
      split at hread
      next hnone =>
        cases hread
        exact .encoding hnone
      next => split at hread <;> cases hread
    next => cases hread

theorem error_of_ofDocument {doc : Json} (h : Alias.Mapping.ofDocument root doc = .error f) :
    f = .notAnObject ∨ f = .notAText := by
  have hsetting : ∀ {doc name}, Alias.Mapping.setting doc name = .error f → f = .notAnObject := by
    intro doc name h
    unfold Alias.Mapping.setting at h
    split at h <;> cases h
    rfl
  unfold Alias.Mapping.ofDocument at h
  rcases bind_eq_error_iff.1 h with hoptions | ⟨options, -, h⟩
  · exact .inl (hsetting hoptions)
  rcases bind_eq_error_iff.1 h with hbase | ⟨base, -, h⟩
  · exact .inl (hsetting hbase)
  rcases bind_eq_error_iff.1 h with hpaths | ⟨paths, -, h⟩
  · exact .inl (hsetting hpaths)
  dsimp only at h
  split at h
  next =>
    rcases bind_eq_error_iff.1 h with h | ⟨_, -, h⟩
    · cases h
    · split at h <;> cases h
      exact .inr rfl
  next =>
    cases h
    exact .inl rfl

theorem escaping_mappingOfText {text : String} (h : mappingOfText root text = .error f) :
    Escaping d x f := by
  unfold mappingOfText at h
  split at h
  next => cases h
  next doc _ =>
    split at h
    next => cases h
    next => cases h
    next failure hnot hdoc =>
      cases h
      rcases error_of_ofDocument hdoc with rfl | rfl
      · exact absurd rfl hnot
      · exact .baseDirectory

theorem escaping_aliasesOn (h : aliasesOn d w = .error f) : Escaping d x f := by
  unfold aliasesOn mappingOn at h
  split at h
  next =>
    rcases bind_eq_error_iff.1 h with htext | ⟨_ | text, -, h⟩
    · exact escaping_textOn htext
    · contradiction
    · exact escaping_mappingOfText h
  next => contradiction

theorem escaping_mapError {r : Except String α} (h : r.mapError .illFormedPattern = .error f) :
    Escaping d x f := by
  cases r with
  | error message =>
    cases h
    exact .pattern message
  | ok a => contradiction

theorem escaping_addRuleFileOn {rules : Ignore.Rules} (h : addRuleFileOn d rules path = .error f) :
    Escaping d x f := by
  unfold addRuleFileOn at h
  split at h
  next =>
    rcases bind_eq_error_iff.1 h with htext | ⟨_ | text, -, h⟩
    · exact escaping_textOn htext
    · contradiction
    · exact escaping_mapError h
  next => contradiction

theorem escaping_rulesOn (h : rulesOn d w = .error f) : Escaping d x f := by
  have hfiles : ∀ (paths : List String) (rules : Ignore.Rules),
      paths.foldlM (addRuleFileOn d) rules = .error f → Escaping d x f := by
    intro paths
    induction paths with
    | nil => exact fun rules h => by contradiction
    | cons path paths ih =>
      intro rules h
      rw [List.foldlM_cons] at h
      rcases bind_eq_error_iff.1 h with hfile | ⟨rules, -, h⟩
      · exact escaping_addRuleFileOn hfile
      · exact ih rules h
  rcases bind_eq_error_iff.1 h with hstart | ⟨rules, -, h⟩
  · exact escaping_mapError hstart
  · exact hfiles _ rules h

theorem escaping_compiled (h : compiled x.patterns = .error f) : Escaping d x f := by
  unfold compiled at h
  split at h
  next =>
    cases h
    exact .pattern _
  next _ _ hfailure =>
    cases h
    exact .noText hfailure
  next => contradiction

theorem error_of_verdict (h : verdict w x rules made path = .error f) :
    rules = .error f ∨ made = .error f := by
  have hpatterns : (if (!x.patterns.isEmpty) = true then do
      if (← made).ignores (w.relativePath path) then return some ExcludeReason.userPattern
      return none
    else return none) = Except.error f → made = .error f := by
    intro h
    split at h
    next =>
      rcases bind_eq_error_iff.1 h with hmade | ⟨r, -, h⟩
      · exact hmade
      · split at h <;> cases h
    next => cases h
  unfold verdict at h
  split at h
  next => cases h
  next =>
    dsimp only at h
    split at h
    next =>
      rcases bind_eq_error_iff.1 h with hrules | ⟨r, -, h⟩
      · exact .inl hrules
      · split at h
        next => cases h
        next => exact .inr (hpatterns h)
    next => exact .inr (hpatterns h)

end Escaping

/-- An analysis fails exactly where what it asks about its root does, so that whatever becomes of
the other files it comes to a graph; and what fails, other than the options themselves, is in the
mapping file, in the ignore files or in the user's patterns. -/
theorem analyze_fails_iff (signal : List Query → Signal) (asked : List Query) (maxNodes : Nat) :
    let r := ((analyze w config root maxNodes).run.run d signal asked c).1
    (∀ f, r = .error f ↔ rootReason d w c config root = .error f) ∧
      ∀ f, r = .error f → config.policy = .error f ∨
        ∃ p, config.policy = .ok p ∧ Escaping d p.exclusions f := by
  intro r
  have hr : ∀ f, r = .error f ↔ rootReason d w c config root = .error f :=
    (ends_analyze_error maxNodes).run signal asked
  refine ⟨hr, fun f hf => ?_⟩
  rcases bind_eq_error_iff.1 ((hr f).1 hf) with hpolicy | ⟨p, hp, h⟩
  · exact .inl hpolicy
  refine .inr ⟨p, hp, ?_⟩
  rcases bind_eq_error_iff.1 h with haliases | ⟨m, -, h⟩
  · unfold aliasesInForce at haliases
    split at haliases
    next => cases haliases
    next => exact escaping_aliasesOn haliases
  rcases error_of_verdict h with hrules | hmade
  · unfold rulesInForce at hrules
    split at hrules
    next => cases hrules
    next => exact escaping_rulesOn hrules
  · unfold patternsInForce at hmade
    split at hmade
    next => cases hmade
    next => exact escaping_compiled hmade

/-- A file that imports nothing, next to an ignore file with a range that runs backwards. -/
def reversedRange : Volume where
  tree := .directory
    [("ws", .directory [(".gitignore", .file (.text "[z-a]\n") 0), ("a.ts", .file (.text "") 0)])]

/-- Options under which ignore files count. -/
def withoutTests : Settings.Config := { includeTests := .bool false }

theorem no_graph_of_reversed_range : withoutTests.policy.toOption.isSome = true ∧
    ¬ ∃ g, ((analyze (.ofRoot "/ws") withoutTests "/ws/a.ts" 10).run.run reversedRange
      (fun _ => {}) [] (.ofSize 8)).1 = .ok g := by
  have hnone : ((analyze (.ofRoot "/ws") withoutTests "/ws/a.ts" 10).run.run reversedRange
      (fun _ => {}) [] (.ofSize 8)).1.toOption.isNone = true := by decide +kernel
  refine ⟨rfl, ?_⟩
  rintro ⟨g, hg⟩
  rw [hg] at hnone
  exact Bool.false_ne_true hnone

theorem analyze_fails_at_reversed_range :
    ((analyze (.ofRoot "/ws") withoutTests "/ws/a.ts" 10).run.run reversedRange (fun _ => {}) []
      (.ofSize 8)).1 = .error (.illFormedPattern "bad character range z-a at position 1") :=
  ((analyze_fails_iff (fun _ => {}) [] 10).1 _).2 rfl

end Coselect.Analysis
