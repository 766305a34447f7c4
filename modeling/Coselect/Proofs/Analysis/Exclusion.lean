import Coselect.Proofs.Analysis.Loading
import Coselect.Proofs.Table

/-! What an analysis may rely on about the files left out. On a disk that does not change, the
rules in force stay the same from the first question to the last, whether they were loaded
before, are loaded on the way, or have to make room; so what is decided about a file holds
whenever it is asked. -/

namespace Coselect.Analysis

open Disk Coselect.Graph

variable {T : Terms} {e : Surroundings} {d : Volume} {w : Workspace} {x : Settings.Exclusions}
  {A : String → Prop}

/-- What an analysis stands on: finding imports, loading the aliases and asking what is left out
keep to its terms, and only files that satisfy `A` are not left out. -/
structure Footing (T : Terms) (w : Workspace) (x : Settings.Exclusions) (A : String → Prop) :
    Prop where
  imports : ∀ suffixes path, (importsOf w suffixes path).run.Leads T fun _ => True
  loads : (loadAliases w.root w.mappingFile).run.Leads T fun _ => True
  accepts : ∀ path, (excludeReason w x path).run.Leads T fun r => r = .ok none → A path

/-- Without any condition on the caches nothing is known about the files. -/
theorem footing_true : Footing (e.under fun _ => True) w x fun _ => True where
  imports _ _ := Inquiry.leads_of_forall (fun _ _ _ => trivial) fun _ => trivial
  loads := Inquiry.leads_of_forall (fun _ _ _ => trivial) fun _ => trivial
  accepts _ := Inquiry.leads_of_forall (fun _ _ _ => trivial) fun _ _ => trivial

/-- The rules of a list of user patterns, when they have to be made. -/
def compiled (patterns : Settings.Texts) : Except Failure Ignore.Rules :=
  match Ignore.Rules.ofLines patterns.items, patterns.failure with
  | .error message, _ => .error (.illFormedPattern message)
  | .ok _, some f => .error f
  | .ok rules, none => .ok rules

/-- What loading the rules of the ignore files comes to, where reading them comes to `read`. -/
def rulesInForce (read : Except Failure Ignore.Rules) (c : Caches) : Except Failure Ignore.Rules :=
  match c.rules with
  | some rules => .ok rules
  | none => read

/-- What asking for the rules of a list of user patterns comes to. -/
def patternsInForce (patterns : Settings.Texts) (c : Caches) : Except Failure Ignore.Rules :=
  match c.patternRules.get? patterns.items, patterns.failure with
  | some rules, none => .ok rules
  | _, _ => compiled patterns

/-- The same rules are in force as at another time. -/
structure InForce (read : Except Failure Ignore.Rules) (patterns : Settings.Texts)
    (c₀ c : Caches) : Prop where
  rules : rulesInForce read c = rulesInForce read c₀
  patterns : patternsInForce patterns c = patternsInForce patterns c₀

/-- What is decided about a file, where asking for the rules of the ignore files comes to `rules`
and asking for those of the user's patterns to `made`. -/
def verdict (w : Workspace) (x : Settings.Exclusions) (rules made : Except Failure Ignore.Rules)
    (path : String) : Except Failure (Option ExcludeReason) := do
  if x.thirdParty && isExternallyManaged path then return some .externallyManaged
  let relative := w.relativePath path
  if x.ignoreFile then
    if (← rules).ignores relative then return some .ignoreRule
  if !x.patterns.isEmpty then
    if (← made).ignores relative then return some .userPattern
  return none

/-- Terms on which asking for rules comes to the same rules each time, whether they are there or
have to be made. -/
structure Steady (T : Terms) (read : Except Failure Ignore.Rules) (patterns : Settings.Texts)
    (rules made : Except Failure Ignore.Rules) : Prop where
  ignore : ∀ c, T.met c → rulesInForce read c = rules
  user : ∀ c, T.met c → patternsInForce patterns c = made
  load : ∀ r, rules = read → read = .ok r → T.may fun c => { c with rules := some r }
  makeRoom : made = compiled patterns → T.may Caches.makeRoom
  keep : ∀ r, made = compiled patterns → compiled patterns = .ok r →
    T.may fun c => { c with patternRules := c.patternRules.insert patterns.items r }

section Steady

variable {read rules made : Except Failure Ignore.Rules} {patterns : Settings.Texts} {c₀ : Caches}

theorem Steady.gives_loadRules (h : Steady T read patterns rules made)
    (hread : (readRules w).run.Gives T read) : (loadRules w).run.Gives T rules := by
  refine Work.leads_caches fun c hc => ?_
  have hrules := h.ignore c hc
  rw [rulesInForce] at hrules
  split
  next r hsome =>
    rw [hsome] at hrules
    rw [← hrules]
    exact Inquiry.gives_pure
  next hnone =>
    rw [hnone] at hrules
    rw [← hrules]
    cases read with
    | error failure => exact Work.gives_bind_error hread
    | ok r =>
      exact Work.gives_bind hread
        (Work.leads_swap (h.load r hrules.symm rfl) fun _ _ => Inquiry.gives_pure)

theorem Steady.gives_patternRules (h : Steady T read patterns rules made) :
    (patternRules patterns).run.Gives T made := by
  refine Work.leads_caches fun c hc => ?_
  have hpatterns := h.user c hc
  rw [patternsInForce] at hpatterns
  split
  next r hsome hcomplete =>
    rw [hsome, hcomplete] at hpatterns
    rw [← hpatterns]
    exact Inquiry.gives_pure
  next hnot =>
    have hmade : made = compiled patterns := by
      rw [← hpatterns]
      split
      next r hsome hcomplete => exact (hnot r hsome hcomplete).elim
      next => rfl
    refine Work.leads_swap (h.makeRoom hmade) fun _ _ => ?_
    have hrules := gives_ofRules (T := T) (Ignore.Rules.ofLines patterns.items)
    cases hlines : Ignore.Rules.ofLines patterns.items with
    | error message =>
      rw [hlines] at hrules
      rw [hmade, compiled, hlines]
      exact Work.gives_bind_error hrules
    | ok r =>
      rw [hlines] at hrules
      refine Work.gives_bind hrules ?_
      unfold complete
      cases hfailure : patterns.failure with
      | some failure =>
        rw [hmade, compiled, hlines, hfailure]
        exact Work.gives_bind_error Inquiry.gives_pure
      | none =>
        have hok : compiled patterns = .ok r := by rw [compiled, hlines, hfailure]
        rw [hmade, hok]
        exact Work.gives_bind Inquiry.gives_pure
          (Work.leads_swap (h.keep r hmade hok) fun _ _ => Inquiry.gives_pure)

/-- What is decided about a file is the same whenever it is asked. -/
theorem Steady.gives_excludeReason (h : Steady T read x.patterns rules made)
    (hread : (readRules w).run.Gives T read) (path : String) :
    (excludeReason w x path).run.Gives T (verdict w x rules made path) := by
  have hpatterns : Inquiry.Gives T (ExceptT.run do
      if !x.patterns.isEmpty then
        if (← patternRules x.patterns).ignores (w.relativePath path) then
          return some ExcludeReason.userPattern
      return none) (do
      if !x.patterns.isEmpty then
        if (← made).ignores (w.relativePath path) then return some ExcludeReason.userPattern
      return none) := by
    split
    next =>
      refine Work.gives_bind_value h.gives_patternRules fun r _ => ?_
      cases r.ignores (w.relativePath path) <;> exact Inquiry.gives_pure
    next => exact Inquiry.gives_pure
  unfold excludeReason verdict
  split
  next => exact Inquiry.gives_pure
  next =>
    dsimp only
    split
    next =>
      refine Work.gives_bind_value (h.gives_loadRules hread) fun r _ => ?_
      cases r.ignores (w.relativePath path) with
      | true => exact Inquiry.gives_pure
      | false => exact hpatterns
    next => exact hpatterns

/-- Rules that are dropped would be made again. -/
theorem patternsInForce_makeRoom {c : Caches}
    (h : patternsInForce patterns c = compiled patterns) :
    patternsInForce patterns c.makeRoom = compiled patterns := by
  unfold Caches.makeRoom
  split
  next => exact h
  next =>
    unfold patternsInForce at h ⊢
    split
    next rules hsome hcomplete =>
      rw [Table.get?_of_get?_drop hsome, hcomplete] at h
      exact h
    next => rfl

theorem steady_inForce (e : Surroundings) (read : Except Failure Ignore.Rules)
    (patterns : Settings.Texts) (c₀ : Caches) :
    Steady (e.under (InForce read patterns c₀)) read patterns (rulesInForce read c₀)
      (patternsInForce patterns c₀) := by
  constructor
  case ignore => exact fun c hc => hc.rules
  case user => exact fun c hc => hc.patterns
  case load =>
    intro r hread hr c hc
    exact ⟨by rw [hread, hr]; rfl, hc.patterns⟩
  case makeRoom =>
    intro hmade c hc
    refine ⟨?_, ?_⟩
    · rw [← hc.rules, Caches.makeRoom]
      split <;> rfl
    · rw [hmade]
      exact patternsInForce_makeRoom (hc.patterns.trans hmade)
  case keep =>
    intro r hmade hr c hc
    refine ⟨hc.rules, ?_⟩
    rw [hmade, patternsInForce, Table.get?_insert_self]
    split
    next heq _ =>
      cases heq
      exact hr.symm
    next => rfl

end Steady

section Still

variable {c₀ : Caches}

/-- Asked on a disk from some caches, a file is not left out. -/
def Accepted (d : Volume) (w : Workspace) (x : Settings.Exclusions) (c : Caches) (path : String) :
    Prop :=
  ∀ signal asked, ((excludeReason w x path).run.run d signal asked c).1 = .ok none

/-- Changes that leave the rules alone keep the same rules in force. -/
theorem InForce.spared {read : Except Failure Ignore.Rules} {patterns : Settings.Texts} {c : Caches}
    {f : Caches → Caches} (hf : SparesRules f) (hc : InForce read patterns c₀ c) :
    InForce read patterns c₀ (f c) := by
  obtain ⟨hrules, hpatterns⟩ := hf c
  exact ⟨by rw [← hc.rules, rulesInForce, rulesInForce, hrules],
    by rw [← hc.patterns, patternsInForce, patternsInForce, hpatterns]⟩

/-- On a disk that does not change, what is decided about a file goes on to hold while the same
rules are in force. -/
theorem footing_inForce (d : Volume) (w : Workspace) (x : Settings.Exclusions) (c₀ : Caches) :
    Footing ((Surroundings.still d).under (InForce (rulesOn d w) x.patterns c₀)) w x
      fun path => ∀ c, InForce (rulesOn d w) x.patterns c₀ c → Accepted d w x c path := by
  constructor
  case imports =>
    exact fun _ _ => (confined_importsOf ..).leads fun f hf c hc => hc.spared fun c => (hf c).2
  case loads => exact (confined_loadAliases _ _).leads fun f hf c hc => hc.spared hf
  case accepts =>
    intro path
    have hdecided := (steady_inForce (.still d) (rulesOn d w) x.patterns c₀).gives_excludeReason
      (gives_readRules (Surroundings.shows_still.tells w)) path
    refine hdecided.leads fun hnone c hc signal asked => ?_
    exact (hdecided.run hc signal asked).trans hnone

/-- On a disk that does not change, an analysis goes on only with files that are not left out,
whichever of the caches between its start and its end that is asked of. -/
theorem footing_still (d : Volume) (w : Workspace) (x : Settings.Exclusions) (c₀ : Caches) :
    ∃ I, I c₀ ∧ Footing ((Surroundings.still d).under I) w x
      fun path => ∀ c, I c → Accepted d w x c path :=
  ⟨_, ⟨rfl, rfl⟩, footing_inForce d w x c₀⟩

end Still

end Coselect.Analysis
