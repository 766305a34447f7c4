import Coselect.Proofs.Analysis.Analyze

/-! What an analysis stores, whatever it meets in the caches. It never takes anything from one cache
to another: what it stores is what it has read from the disk itself, or made from the options. -/

namespace Coselect.Analysis

open Disk Coselect.Graph Inquiry Imports

variable {T : Terms} {w : Workspace} {x : Settings.Exclusions} {path : String}
  {stamp : Option Stamp}

/-- Terms on which an analysis may store the aliases and the rules that it reads, the rules it makes
of patterns, and the statements of a file under a stamp that the file had. -/
structure Terms.Stores (T : Terms) (w : Workspace) : Prop where
  aliases : (readMapping w.root (Path.combine w.root w.mappingFile)).run.Leads T fun r =>
    ∀ m, r = .ok m → T.may fun c => { c with aliases := some m }
  rules : (readRules w).run.Leads T fun r => ∀ rules, r = .ok rules →
    T.may fun c => { c with rules := some rules }
  makeRoom : T.may Caches.makeRoom
  patternRules : ∀ items rules, Ignore.Rules.ofLines items = .ok rules →
    T.may fun c => { c with patternRules := c.patternRules.insert items rules }
  lookUp : ∀ path t, T.may fun c => { c with imports := c.imports.afterLookup path t }
  statements : ∀ path t text, T.answers (.stamp path) (some t) → T.answers (.read path) (.ok text) →
    T.may fun c => { c with imports := c.imports.store path t (extract text) }

namespace Terms.Stores

variable (h : T.Stores w)

include h

theorem leads_loadAliases : (loadAliases w.root w.mappingFile).run.Leads T fun _ => True := by
  refine Work.leads_caches fun c _ => ?_
  split
  next => exact trivial
  next =>
    exact Work.leads_bind h.aliases
      (fun m hm => Work.leads_swap (hm m rfl) fun _ _ => trivial) fun _ _ => trivial

theorem leads_loadRules : (loadRules w).run.Leads T fun _ => True := by
  refine Work.leads_caches fun c _ => ?_
  split
  next => exact trivial
  next =>
    exact Work.leads_bind h.rules
      (fun r hr => Work.leads_swap (hr r rfl) fun _ _ => trivial) fun _ _ => trivial

theorem leads_patternRules (patterns : Settings.Texts) :
    (Analysis.patternRules patterns).run.Leads T fun _ => True := by
  refine Work.leads_caches fun c _ => ?_
  split
  next => exact trivial
  next =>
    refine Work.leads_swap h.makeRoom fun _ _ => ?_
    refine Work.leads_bind (gives_ofRules _) (fun rules hrules => ?_) fun _ _ => trivial
    refine Work.leads_bind (confined_complete.leads fun _ => False.elim) (fun _ _ => ?_)
      fun _ _ => trivial
    refine Work.leads_swap (h.patternRules _ rules ?_) fun _ _ => trivial
    cases hlines : Ignore.Rules.ofLines patterns.items with
    | error message => exact nomatch hlines ▸ hrules
    | ok r =>
      rw [hlines] at hrules
      obtain rfl := Except.ok.inj hrules
      rfl

theorem leads_excludeReason (path : String) :
    (excludeReason w x path).run.Leads T fun _ => True := by
  have hpatterns : ∀ Q : Except Failure (Option ExcludeReason) → Prop, (∀ r, Q r) →
      Inquiry.Leads T (ExceptT.run do
        if !x.patterns.isEmpty then
          if (← Analysis.patternRules x.patterns).ignores (w.relativePath path) then
            return some ExcludeReason.userPattern
        return none) Q := by
    intro Q hQ
    split
    next =>
      refine Work.leads_bind (h.leads_patternRules x.patterns) (fun r _ => ?_) fun _ _ => hQ _
      cases r.ignores (w.relativePath path) <;> exact hQ _
    next => exact hQ _
  unfold excludeReason
  split
  next => exact trivial
  next =>
    dsimp only
    split
    next =>
      refine Work.leads_bind h.leads_loadRules (fun r _ => ?_) fun _ _ => trivial
      cases r.ignores (w.relativePath path) with
      | true => exact trivial
      | false => exact hpatterns _ fun _ => trivial
    next => exact hpatterns _ fun _ => trivial

theorem leads_readStatements (hstamp : ∀ t, stamp = some t → T.answers (.stamp path) (some t)) :
    (readStatements path stamp).run.Leads T fun _ => True := by
  have hread : (Work.read? path).run.Leads T fun r => ∀ text, r = .ok (some text) →
      T.answers (.read path) (.ok text) := by
    refine Work.leads_ofInquiry_bind (P := T.answers (.read path)) (fun _ => id) ?_
    rintro ((_ | name) | text) hanswer
    · exact fun _ htext => nomatch htext
    · exact fun _ htext => nomatch htext
    · rintro _ ⟨⟩
      exact hanswer
  refine Work.leads_bind hread ?_ fun _ _ => trivial
  rintro (_ | text) htext
  · exact trivial
  · cases stamp with
    | none => exact trivial
    | some t =>
      exact Work.leads_ofInquiry_bind
        (leads_swap (h.statements path t text (hstamp t rfl) (htext text rfl))) fun _ _ => trivial

theorem leads_importsOf (suffixes : List String) (path : String) :
    (importsOf w suffixes path).run.Leads T fun _ => True := by
  rw [importsOf_eq]
  split
  next => exact trivial
  next =>
    refine Work.leads_ofInquiry_bind (P := T.answers (.stamp path)) (fun _ => id) ?_
    rintro (_ | t) hstamp
    · exact h.leads_readStatements nofun
    · have hlookUp : (Analysis.lookUp path t).Leads T fun _ => True :=
        Leads.bind (leads_swap (h.lookUp path t)) fun _ _ => trivial
      refine Work.leads_ofInquiry_bind hlookUp ?_
      rintro (_ | statements) -
      · refine h.leads_readStatements ?_
        rintro _ ⟨⟩
        exact hstamp
      · exact trivial

/-- An analysis keeps to such terms. -/
theorem leads_analyze (config : Settings.Config) (root : String) (maxNodes : Nat) :
    (analyze w config root maxNodes).run.Leads T fun _ => True := by
  cases hp : config.policy with
  | error failure =>
    unfold analyze
    rw [hp]
    exact trivial
  | ok p =>
    have hfooting : Footing T w p.exclusions fun _ => True :=
      ⟨h.leads_importsOf, h.leads_loadAliases,
        fun path => (h.leads_excludeReason path).mono fun _ _ _ => trivial⟩
    exact (hfooting.leads_analyze hp root maxNodes).mono fun _ _ => trivial

end Terms.Stores

end Coselect.Analysis
