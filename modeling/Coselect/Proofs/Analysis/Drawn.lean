import Coselect.Proofs.Analysis.Exclusion
import Coselect.Proofs.Disk.Timeline
import Coselect.Proofs.Imports.Cache

/-! Caches that hold nothing but what their analyzer would load again as it is. On terms that keep
this up, what an analysis loads comes to what the disk has, whether it is there or has to be read. -/

namespace Coselect.Analysis

open Disk Coselect.Graph Inquiry Imports

variable {T : Terms} {e : Surroundings} {d : Volume} {disk : Nat → Volume} {n : Nat} {w : Workspace}
  {x : Settings.Exclusions} {rules : Except Failure Ignore.Rules} {A : Option Alias.Mapping → Prop}
  {J : Imports.Cache Stamp → Prop} {m : Alias.Mapping} {c : Caches} {path : String} {t : Stamp}

/-- Caches that hold nothing but what their analyzer would load, where `rules` is what reading the
rules of the ignore files comes to, `A` what is known about the aliases and `J` about the
imports. -/
structure Drawn (rules : Except Failure Ignore.Rules) (A : Option Alias.Mapping → Prop)
    (J : Imports.Cache Stamp → Prop) (c : Caches) : Prop where
  aliases : A c.aliases
  rules : ∀ r, c.rules = some r → rules = .ok r
  patternRules : ∀ items r, c.patternRules.get? items = some r → Ignore.Rules.ofLines items = .ok r
  imports : J c.imports

/-- The aliases are those that loading them comes to, if they are loaded. -/
def Told (aliases : Except Failure Alias.Mapping) (o : Option Alias.Mapping) : Prop :=
  ∀ m, o = some m → aliases = .ok m

theorem Told.of_eq {aliases : Except Failure Alias.Mapping} (h : aliases = .ok m) :
    Told aliases (some m) := by
  rintro _ ⟨⟩
  exact h

theorem Drawn.withAliases {B : Option Alias.Mapping → Prop} {o : Option Alias.Mapping}
    (h : Drawn rules A J c) (ho : B o) : Drawn rules B J { c with aliases := o } :=
  ⟨ho, h.rules, h.patternRules, h.imports⟩

theorem Drawn.of_aliases {B : Option Alias.Mapping → Prop} (h : Drawn rules A J c)
    (hB : B c.aliases) : Drawn rules B J c :=
  ⟨hB, h.rules, h.patternRules, h.imports⟩

theorem Drawn.withImports (h : Drawn rules A J c) {imports : Imports.Cache Stamp}
    (himports : J imports) : Drawn rules A J { c with imports } :=
  ⟨h.aliases, h.rules, h.patternRules, himports⟩

theorem Drawn.reset (h : Drawn rules A J c) (hA : A none) (hJ : J c.imports → J c.imports.clear) :
    Drawn rules A J c.reset :=
  ⟨hA, nofun, nofun, hJ h.imports⟩

/-! ### Rules and aliases -/

/-- Rules that were loaded before are those that would be loaded. -/
theorem steady_drawn (e : Surroundings) (patterns : Settings.Texts) :
    Steady (e.under (Drawn rules A J)) rules patterns rules (compiled patterns) := by
  constructor
  case ignore =>
    intro c hc
    unfold rulesInForce
    split
    next r hsome => exact (hc.rules r hsome).symm
    next => rfl
  case user =>
    intro c hc
    unfold patternsInForce
    split
    next r hsome hcomplete => rw [compiled, hc.patternRules _ r hsome, hcomplete]
    next => rfl
  case load =>
    intro r _ hr c hc
    refine ⟨hc.aliases, ?_, hc.patternRules, hc.imports⟩
    rintro _ ⟨⟩
    exact hr
  case makeRoom =>
    intro _ c hc
    unfold Caches.makeRoom
    split
    next => exact hc
    next => exact ⟨hc.aliases, hc.rules, fun items r hget =>
      hc.patternRules items r (Table.get?_of_get?_drop hget), hc.imports⟩
  case keep =>
    intro r _ hr c hc
    refine ⟨hc.aliases, hc.rules, fun items r' hget => ?_, hc.imports⟩
    rw [Table.get?_insert] at hget
    split at hget
    next heq =>
      cases hget
      unfold compiled at hr
      split at hr
      next => cases hr
      next => cases hr
      next hlines _ =>
        cases hr
        exact heq ▸ hlines
    next => exact hc.patternRules items r' hget

theorem gives_excludeReason (htells : (e.under (Drawn (rulesOn d w) A J)).Tells d w) (path : String) :
    (excludeReason w x path).run.Gives (e.under (Drawn (rulesOn d w) A J))
      (verdict w x (rulesOn d w) (compiled x.patterns) path) :=
  (steady_drawn e x.patterns).gives_excludeReason (gives_readRules htells) path

theorem gives_loadAliases_told (htells : (e.under (Drawn rules (Told (aliasesOn d w)) J)).Tells d w) :
    (loadAliases w.root w.mappingFile).run.Gives (e.under (Drawn rules (Told (aliasesOn d w)) J))
      (aliasesOn d w) := by
  refine gives_loadAliases htells (fun c hc => ?_) fun a _ ha c hc => hc.withAliases (.of_eq ha)
  unfold aliasesInForce
  split
  next m hsome => exact (hc.aliases m hsome).symm
  next => rfl

theorem gives_loadAliases_loaded : (loadAliases w.root w.mappingFile).run.Gives
    (e.under (Drawn rules (· = some m) J)) (.ok m) := by
  refine Work.leads_caches fun c hc => ?_
  rw [hc.aliases]
  exact gives_pure

/-- Once loaded, the aliases are there. -/
theorem ends_loadAliases (root mappingFile : String) (c : Caches) :
    (loadAliases root mappingFile).run.Ends e c fun r c' =>
      ∀ m, r = .ok m → c'.aliases = some m := by
  refine Work.ends_bind.2 (Work.ends_ofInquiry.2 (ends_caches.2 ?_))
  dsimp only
  split
  next a hsome =>
    rintro _ ⟨⟩
    exact hsome
  next =>
    refine Work.ends_bind.2 (ends_of_forall ?_)
    rintro (f | a) c'
    · exact nofun
    · refine Work.ends_bind.2 (Work.ends_ofInquiry.2 (ends_swap.2 ?_))
      rintro _ ⟨⟩
      rfl

/-! ### Statements -/

/-- What reading the statements of a file comes to. -/
def statementsOn (d : Volume) (path : String) : Except Failure (List Statement) := do
  match ← textOn d path with
  | none => .error (.fault (.unreadable (.str path)))
  | some text => return extract text

/-- The statements of a file that is scanned. -/
def importsOn (d : Volume) (w : Workspace) (suffixes : List String) (path : String) :
    Except Failure (List Statement) :=
  if !isScanned w suffixes path then .ok [] else statementsOn d path

/-- Some statements are those of a file at a moment when it had a stamp. -/
def Extracted (disk : Nat → Volume) (path : String) (t : Stamp) (statements : List Statement) :
    Prop :=
  ∃ i text, (disk i).stamp path = some t ∧ (disk i).read path = .ok text ∧
    statements = extract text

/-- Imports that are kept under the stamps that their files had, with room for more. -/
structure Stocked (disk : Nat → Volume) (imports : Imports.Cache Stamp) : Prop where
  holds : imports.Holds (Extracted disk)
  room : 1 ≤ imports.maxSize

theorem stocked_ofSize {size : Int} (hsize : 1 ≤ size) : Stocked disk (.ofSize size) :=
  ⟨Cache.holds_ofSize size, hsize⟩

theorem Stocked.clear {imports : Imports.Cache Stamp} (h : Stocked disk imports) :
    Stocked disk imports.clear :=
  ⟨Cache.holds_clear _, h.room⟩

/-- What is read from a file may be stored under the stamp that the file had then. -/
theorem Drawn.store (h : Drawn rules A (Stocked disk) c) {statements : List Statement}
    (hnew : Extracted disk path t statements) :
    Drawn rules A (Stocked disk) { c with imports := c.imports.store path t statements } :=
  h.withImports ⟨h.imports.holds.store hnew, by rw [Cache.maxSize_store]; exact h.imports.room⟩

theorem Drawn.afterLookup (h : Drawn rules A (Stocked disk) c) (path : String) (t : Stamp) :
    Drawn rules A (Stocked disk) { c with imports := c.imports.afterLookup path t } :=
  h.withImports
    ⟨h.imports.holds.afterLookup path t, by rw [Cache.maxSize_afterLookup]; exact h.imports.room⟩

/-- Nothing but the room is needed for the caches to be drawn after a reset. -/
theorem drawn_reset (hroom : 1 ≤ c.imports.maxSize) (aliases : Except Failure Alias.Mapping) :
    Drawn rules (Told aliases) (Stocked disk) c.reset :=
  ⟨nofun, nofun, nofun, Cache.holds_clear _, hroom⟩

theorem drawn_ofSize {size : Int} (hsize : 1 ≤ size) (aliases : Except Failure Alias.Mapping) :
    Drawn rules (Told aliases) (Stocked disk) (.ofSize size) :=
  ⟨nofun, nofun, nofun, stocked_ofSize hsize⟩

theorem Drawn.room (h : Drawn rules A (Stocked disk) c) : 1 ≤ c.imports.maxSize := h.imports.room

section Statements

variable (hanswers : (e.under (Drawn rules A (Stocked disk))).Shows (disk n))

theorem gives_keepStatements {stamp : Option Stamp} {text : String}
    (hstamp : stamp = (disk n).stamp path) (hread : (disk n).read path = .ok text) :
    (keepStatements path stamp text).Gives (e.under (Drawn rules A (Stocked disk)))
      (extract text) := by
  cases stamp with
  | none => exact gives_pure
  | some t =>
    exact Leads.bind (leads_swap fun c hc => hc.store ⟨n, text, hstamp.symm, hread, rfl⟩)
      fun _ _ => gives_pure

include hanswers

theorem gives_readStatements {stamp : Option Stamp} (hstamp : stamp = (disk n).stamp path) :
    (readStatements path stamp).run.Gives (e.under (Drawn rules A (Stocked disk)))
      (statementsOn (disk n) path) := by
  refine Work.gives_bind_value (gives_read? ⟨hanswers _, hanswers _⟩) ?_
  rintro (_ | text) htext
  · exact gives_pure
  · refine Work.gives_ofInquiry (gives_keepStatements hstamp ?_)
    unfold textOn at htext
    split at htext
    next hread =>
      cases htext
      exact hread
    next => cases htext
    next => cases htext

/-- Statements that are found for a file are those that it has now. -/
theorem gives_importsOf (hdisk : Versioned disk path) (suffixes : List String) :
    (importsOf w suffixes path).run.Gives (e.under (Drawn rules A (Stocked disk)))
      (importsOn (disk n) w suffixes path) := by
  rw [importsOf_eq, importsOn]
  split
  next => exact gives_pure
  next =>
    refine Work.gives_bind (Work.gives_ofInquiry (gives_ask (hanswers (.stamp path)))) ?_
    have hanswer : (disk n).answer (.stamp path) = (disk n).stamp path := rfl
    rw [hanswer]
    cases ht : (disk n).stamp path with
    | none => exact gives_readStatements hanswers ht.symm
    | some t =>
      have hlookUp : (lookUp path t).Leads (e.under (Drawn rules A (Stocked disk))) fun found =>
          (foundOrRead path t found).run.Gives (e.under (Drawn rules A (Stocked disk)))
            (statementsOn (disk n) path) := by
        refine Leads.bind (leads_swap fun c hc => hc.afterLookup path t) fun c hc => ?_
        change (foundOrRead path t (c.imports.find? path t)).run.Gives _ _
        rcases hfind : c.imports.find? path t with _ | statements
        · exact gives_readStatements hanswers ht.symm
        · obtain ⟨i, text, hi, hread, rfl⟩ := hc.imports.holds.find? hfind
          have hnow : textOn (disk n) path = .ok (some text) := by
            rw [textOn, hdisk i n t hi ht, hread]
          rw [statementsOn, hnow]
          exact gives_pure
      exact Work.leads_ofInquiry_bind hlookUp fun _ => id

end Statements

end Coselect.Analysis
