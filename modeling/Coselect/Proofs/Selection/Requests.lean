import Coselect.Proofs.Analysis.Uncancelled
import Coselect.Proofs.Path
import Coselect.Proofs.Selection.Applied
import Coselect.Proofs.Selection.History

/-! Requests side by side. A request answers none exactly if it was superseded before its
analysis ended, and then leaves no trace; no graph of a cancelled analysis is applied; and
whenever no request is in progress, none is in flight and the roots that count as selected
are those that are applied. -/

namespace Coselect.Selection

open Analysis Coselect.Graph

namespace Orchestrator

variable {o o' : Orchestrator} {log : List (String × Purpose)} {task : Nat} {root : String}

/-- Every call has asked for the lock of its root. -/
def Entered (o : Orchestrator) : Prop :=
  ∀ task c, o.calls.get? task = some c → c.phase ≠ .starting

theorem Entered.step (h : o.Entered) (hs : o.step? task = some o') :
    o'.Entered ∧ ∃ c, o.calls.get? task = some c ∧ c.requests = [] := by
  cases hc : o.calls.get? task with
  | none => simp [step?, hc] at hs
  | some c =>
    obtain ⟨phase, update, hp, hcalls⟩ := (advance_of_step? hc hs).calls
    refine ⟨fun task' c' hc' => ?_, c, rfl, ?_⟩
    · rw [hcalls, Table.get?_insert] at hc'
      split at hc'
      next => rw [← Option.some.inj hc']; exact hp
      next => exact h task' c' hc'
    · have hne := h task c hc
      unfold Call.requests
      cases hphase : c.phase with
      | starting => exact absurd hphase hne
      | _ => rfl

/-- A new call enters the log with its place in the line. -/
theorem Runs.enter (run : Runs log o) (h : o.Entered) {purpose : Purpose}
    (he : o.enter? task root purpose = some o') :
    Runs (log ++ [(Path.normalize root, purpose)]) o' ∧ o'.Entered := by
  unfold enter? at he
  split at he
  next => contradiction
  next hn =>
    have hfresh : o.calls.get? task = none := by simpa [Table.contains] using hn
    have hc : (o.start task (Path.normalize root) purpose).calls.get? task =
        some ⟨Path.normalize root, purpose, .starting, {}⟩ := by simp [Orchestrator.start]
    refine ⟨.step task (run.start task root purpose hfresh) hc he, fun task' c' hc' => ?_⟩
    obtain ⟨phase, update, hp, hcalls⟩ := (advance_of_step? hc he).calls
    rw [hcalls, Table.get?_insert] at hc'
    split at hc'
    next => rw [← Option.some.inj hc']; exact hp
    next ht => exact h task' c' (by simpa [Orchestrator.start, ht] using hc')

end Orchestrator

/-- The analysis of a request comes to no graph marked as cancelled. -/
def Pending.Whole (p : Pending) : Prop :=
  ∃ c, p.rest.Ends { signals := Uncancelled } c fun r _ => ∀ g, r = .ok g → g.cancelled = false

namespace Traffic

variable {t t' : Traffic} {e : Event} {log : List Event} {root : String} {n : Nat}

/-- What the orchestrator was asked for. -/
def handed (log : List Event) : List (String × Purpose) := log.filterMap Event.call?

theorem handed_append : handed (log ++ [e]) = handed log ++ e.call?.toList := by
  simp [handed, List.filterMap_cons]
  cases e.call? <;> rfl

/-- What holds after any events: besides the history of the requests, that their roots are
normal, that the graphs of those not superseded are whole, and that the orchestrator and the
roots that count as selected follow what was handed over. -/
structure Kept (log : List Event) (t : Traffic) : Prop where
  history : History log t
  normal : ∀ n p, t.pending.get? n = some p → Path.normalize p.root = p.root
  whole : ∀ n p, t.pending.get? n = some p → n ∉ t.service.cancelled → p.Whole
  accepted : ∀ root n g, .returned root n (some g) ∈ log → g.cancelled = false
  calls : Orchestrator.Runs (handed log) t.service.orchestrator
  entered : t.service.orchestrator.Entered
  roots : ∀ root, root ∈ t.service.manualRoots ↔ (applied (handed log) root).isSome

theorem signals_eq {service : Service} (hn : n ∉ service.cancelled) :
    Signals service n = Uncancelled := by
  funext s
  simp [Signals, Service.signal, Uncancelled, hn]

theorem eq_returned_of_call? {call : String × Purpose} (hn : e.request? = some n)
    (hcall : e.call? = some call) : ∃ root g, e = .returned root n (some g) := by
  cases e with
  | returned root m answer =>
    obtain rfl : m = n := Option.some.inj hn
    cases answer with
    | none => contradiction
    | some g => exact ⟨root, g, rfl⟩
  | withdrew => contradiction
  | refused | began | resumed | failed | worked | collected => contradiction

theorem eq_returned_of_call?_eq_apply {g : DependencyGraph} (hcall : e.call? = some (root, .apply g)) :
    ∃ n, e = .returned root n (some g) := by
  cases e with
  | returned root' n answer =>
    cases answer with
    | none => contradiction
    | some g' =>
      cases hcall
      exact ⟨n, rfl⟩
  | withdrew => simp [Event.call?] at hcall
  | refused | began | resumed | failed | worked | collected => contradiction

namespace Move

theorem normal (h : ∀ n p, t.pending.get? n = some p → Path.normalize p.root = p.root)
    (m : Move t e t') {p : Pending} (hp : t'.pending.get? n = some p) :
    Path.normalize p.root = p.root := by
  cases m with
  | begin root _ caches _ _ _ =>
    rw [Table.get?_insert] at hp
    split at hp
    next => rw [← Option.some.inj hp, Path.normalize_normalize]
    next => exact h n p hp
  | @resume n' q _ _ caches hq _ _ =>
    rw [Table.get?_insert] at hp
    split at hp
    next => rw [← Option.some.inj hp]; exact h n' q hq
    next => exact h n p hp
  | discard | accept | fail =>
    rw [Table.get?_erase] at hp
    split at hp
    next => contradiction
    next => exact h n p hp
  | refuse | withdraw | work | collect => exact h n p hp

theorem not_mem_cancelled (h : Register t.service t.going) (m : Move t e t') {p : Pending}
    (hp : t.pending.get? n = some p) (hn : n ∉ t'.service.cancelled) : n ∉ t.service.cancelled :=
  fun hc => hn ((m.mem_cancelled_iff h (going_of_get? hp)).2 (.inl hc))

theorem whole (hr : Register t.service t.going)
    (h : ∀ n p, t.pending.get? n = some p → n ∉ t.service.cancelled → p.Whole) (m : Move t e t')
    {p : Pending} (hp : t'.pending.get? n = some p) (hn : n ∉ t'.service.cancelled) : p.Whole := by
  have hold : t.pending.get? n = some p → p.Whole := fun hp =>
    h n p hp (m.not_mem_cancelled hr hp hn)
  cases m with
  | begin root _ caches _ _ hrest =>
    rw [Table.get?_insert] at hp
    split at hp
    next e =>
      subst e
      rw [← Option.some.inj hp]
      rw [signals_eq hn] at hrest
      exact (analyze_uncancelled _ _ _ caches).proceeds hrest
    next => exact hold hp
  | resume caches hq hnext hrest =>
    rw [Table.get?_insert] at hp
    split at hp
    next e =>
      subst e
      obtain ⟨c, hends⟩ := h _ _ hq hn
      rw [← Option.some.inj hp]
      rw [signals_eq hn] at hrest
      exact (hends.resumes hnext caches).proceeds hrest
    next => exact hold hp
  | discard | accept | fail =>
    rw [Table.get?_erase] at hp
    split at hp
    next => contradiction
    next => exact hold hp
  | refuse | withdraw | work | collect => exact hold hp

theorem accepted (h : ∀ n p, t.pending.get? n = some p → n ∉ t.service.cancelled → p.Whole)
    {g : DependencyGraph} (m : Move t (.returned root n (some g)) t') : g.cancelled = false := by
  have hn : n ∉ t.service.cancelled := fun hc => absurd (m.returned.2.2.2 hc) (by simp)
  cases m with
  | accept task hp hd he =>
    obtain ⟨c, hends⟩ := h n _ hp hn
    exact hends g rfl

/-- What a request does leaves the orchestrator and the roots that count as selected alone, up
to the time when its graph is going to be applied. -/
theorem untouched (m : Move t e t') (he : e.request? = some n) (hcall : e.call? = none) :
    t'.service.manualRoots = t.service.manualRoots ∧
      t'.service.orchestrator = t.service.orchestrator := by
  cases m with
  | begin root _ caches _ hb _ =>
    obtain ⟨rfl, rfl⟩ := Prod.mk.injEq .. ▸ hb
    simp
  | resume => exact ⟨rfl, rfl⟩
  | discard hp hd =>
    obtain ⟨-, -, -, -, ho, hm⟩ := Service.accept_eq hd
    exact ⟨hm, ho⟩
  | fail hp => simp
  | accept => simp [Event.call?] at hcall
  | refuse | withdraw | work | collect => simp [Event.request?] at he

theorem manualRoots_eq (m : Move t e t') (he : e.call? = none) :
    t'.service.manualRoots = t.service.manualRoots := by
  cases hn : e.request? with
  | some n => exact (m.untouched hn he).1
  | none =>
    cases m with
    | refuse | work | collect => rfl
    | withdraw => simp [Event.call?] at he
    | begin | resume | discard | accept | fail => simp [Event.request?] at hn

/-- What is handed over counts as selected if it is a graph, and not if it is none. -/
theorem mem_manualRoots (m : Move t e t') {root' : String} {purpose : Purpose}
    (he : e.call? = some (root', purpose)) : root ∈ t'.service.manualRoots ↔
      if root' = root then purpose.graph?.isSome = true else root ∈ t.service.manualRoots := by
  cases m with
  | accept task hp hd _ =>
    obtain ⟨rfl, rfl⟩ := Prod.mk.injEq .. ▸ Option.some.inj he
    obtain ⟨-, -, -, -, -, hm⟩ := Service.accept_eq hd
    simp only [hm, ↓reduceIte, List.mem_insert_iff, Purpose.graph?]
    split
    next hr => simp [hr]
    next hr => simp [Ne.symm hr]
  | withdraw root₀ task _ =>
    obtain ⟨rfl, rfl⟩ := Prod.mk.injEq .. ▸ Option.some.inj he
    simp only [Service.withdraw, Service.manualRoots_supersede, List.mem_filter, Purpose.graph?]
    by_cases hr : Path.normalize root₀ = root
    · simp [hr]
    · simp [hr, Ne.symm hr]
  | refuse | begin | resume | discard | fail | work | collect => simp [Event.call?] at he

/-- The orchestrator is asked for what an event hands over, and for nothing else. -/
theorem calls (hn : ∀ n p, t.pending.get? n = some p → Path.normalize p.root = p.root)
    (run : Orchestrator.Runs (handed log) t.service.orchestrator)
    (h : t.service.orchestrator.Entered) (m : Move t e t') :
    Orchestrator.Runs (handed (log ++ [e])) t'.service.orchestrator ∧
      t'.service.orchestrator.Entered := by
  rw [handed_append]
  cases m with
  | begin root config caches hc hb hrest =>
    rw [(untouched (.begin root config caches hc hb hrest) rfl rfl).2]
    simpa [Event.call?] using ⟨run, h⟩
  | discard hp hd =>
    rw [(untouched (.discard hp hd) rfl rfl).2]
    simpa [Event.call?] using ⟨run, h⟩
  | fail hp => simpa [Event.call?] using ⟨run, h⟩
  | refuse | resume => simpa [Event.call?] using ⟨run, h⟩
  | accept task hp hd he =>
    rw [(Service.accept_eq hd).2.2.2.2.1] at he
    have hrun := run.enter h he
    rwa [hn _ _ hp] at hrun
  | withdraw root task he =>
    have hrun := run.enter h he
    rwa [Path.normalize_normalize] at hrun
  | work task hs =>
    obtain ⟨he, c, hc, hr⟩ := h.step hs
    have hrun := run.step task hc hs
    rw [hr] at hrun
    exact ⟨hrun, he⟩
  | collect task hc hf =>
    refine ⟨by simpa [Event.call?] using run.collect task hc hf, fun task' c' hc' => ?_⟩
    simp only [Orchestrator.collect, Table.get?_erase] at hc'
    split at hc'
    next => contradiction
    next => exact h task' c' hc'

end Move

theorem Kept.move (h : Kept log t) (m : Move t e t') : Kept (log ++ [e]) t' := by
  have hcalls := m.calls h.normal h.calls h.entered
  refine ⟨h.history.move m, fun n p => m.normal h.normal, fun n p => m.whole h.history.register h.whole,
    ?_, hcalls.1, hcalls.2, ?_⟩
  · intro root n g hm
    rcases List.mem_append.1 hm with hm | hm
    · exact h.accepted root n g hm
    · obtain rfl := List.mem_singleton.1 hm
      exact m.accepted h.whole
  · intro root
    rw [handed_append]
    cases he : e.call? with
    | none => simpa [m.manualRoots_eq he] using h.roots root
    | some call =>
      rw [m.mem_manualRoots he, Option.toList_some, applied_append]
      split
      next => rfl
      next => exact h.roots root

theorem kept_opening {workspace : Workspace} {config : Settings.Config} :
    Kept [] (opening workspace config) where
  history := history_opening
  normal := by simp [opening]
  whole := by simp [opening]
  accepted := by simp
  calls := .initial
  entered _ _ h := nomatch h
  roots := by simp [opening, handed, applied]

theorem Kept.runs {log' : List Event} (h : Kept log t) (run : Runs t log' t') :
    Kept (log ++ log') t' := by
  induction run with
  | refl => simpa using h
  | tail _ m ih =>
    rw [← List.append_assoc]
    exact ih.move m

/-- Without a request in progress nothing is in flight, and the roots that count as selected
are those applied. -/
theorem Kept.atRest (h : Kept log t) (hr : t.AtRest) :
    t.service.inFlight.entries = [] ∧
      ∀ root, root ∈ t.service.manualRoots ↔ root ∈ t.service.orchestrator.state.roots := by
  have hgoing : ∀ n, t.going n = none := by
    intro n
    simp [going, Table.get?, hr.1, Table.lookup]
  constructor
  · refine List.eq_nil_iff_forall_not_mem.2 ?_
    rintro ⟨root, n⟩ hm
    have hf := ((h.history.register.inFlight root n).1 (Table.mem_entries_iff.1 hm)).1
    rw [hgoing] at hf
    contradiction
  · intro root
    have hreflects := h.calls.kept.reflects hr.2
    rw [h.roots, State.roots, Table.mem_keys_iff, hreflects.contributions, Option.isSome_map]

/-- However any number of requests to select and to withdraw roots go on side by side: a request
whose analysis comes to a graph answers none if and only if, since it began, another one for
its root began or the root was withdrawn; a request that answers none leaves the roots that
count as selected and the orchestrator alone, whenever it does anything; no graph marked as
cancelled is applied; and without a request in progress nothing is in flight, and the roots
that count as selected are those applied. -/
theorem superseded_iff_answers_none {workspace : Workspace} {config : Settings.Config}
    (run : Runs (opening workspace config) log t) :
    (∀ root n answer before between after,
      log = before ++ .began root n :: (between ++ .returned root n answer :: after) →
      (answer = none ↔ ∃ e ∈ between, e.Supersedes root)) ∧
    (∀ root n, .returned root n none ∈ log → ∀ before t₁ e t₂ after,
      Runs (opening workspace config) before t₁ → Move t₁ e t₂ → Runs t₂ after t →
      log = before ++ e :: after → e.request? = some n →
      t₂.service.manualRoots = t₁.service.manualRoots ∧
        t₂.service.orchestrator = t₁.service.orchestrator) ∧
    ((∀ root n g, .returned root n (some g) ∈ log → g.cancelled = false) ∧
      ∀ root g, t.service.orchestrator.state.graphs.get? root = some g → g.cancelled = false) ∧
    (t.AtRest → t.service.inFlight.entries = [] ∧
      ∀ root, root ∈ t.service.manualRoots ↔ root ∈ t.service.orchestrator.state.roots) := by
  have h : Kept log t := kept_opening.runs run
  refine ⟨h.history.answered, ?_, ⟨h.accepted, ?_⟩, h.atRest⟩
  · intro root n hnone before t₁ e t₂ after _ m _ hlog hn
    cases hcall : e.call? with
    | none => exact m.untouched hn hcall
    | some call =>
      obtain ⟨root', g, rfl⟩ := eq_returned_of_call? hn hcall
      exact absurd hnone (h.history.not_returned_twice hlog (by simp))
  · intro root g hg
    obtain ⟨e, he, hcall⟩ := List.mem_filterMap.1 (h.calls.logged.2 root g hg)
    obtain ⟨n, rfl⟩ := eq_returned_of_call?_eq_apply hcall
    exact h.accepted root n g he

/-- A configuration under which a file without imports is looked at without a question. -/
def quick : Settings.Config :=
  { enabled := .bool true, includeTests := .bool false, respectIgnoreFile := .bool false }

/-- Caches that know that a workspace has no aliases. -/
def aliasFree : Caches := { aliases := some (.empty "/"), imports := .ofSize 1 }

/-- Two requests for one root, of which the older one ends first. -/
theorem superseded_iff_answers_none_two_requests : ∃ log t, Runs (opening (.ofRoot "/") quick) log t ∧
    t.AtRest ∧ (∃ after, log = .began "/a" 0 ::
      ([.began "/a" 1, .resumed 0] ++ .returned "/a" 0 none :: after)) ∧
    (∃ e ∈ [Event.began "/a" 1, .resumed 0], e.Supersedes "/a") ∧
    t.service.inFlight.entries = [] ∧ "/a" ∈ t.service.orchestrator.state.roots := by
  have run := Runs.refl (opening (.ofRoot "/") quick)
    |>.tail (.begin "/a" none aliasFree rfl rfl (proceeds_settle ..))
    |>.tail (.begin "/a" none aliasFree rfl rfl (proceeds_settle ..))
    |>.tail (.resume (n := 0) aliasFree rfl (.pause _) (proceeds_settle ..))
    |>.tail (.discard (n := 0) rfl rfl)
    |>.tail (.resume (n := 1) aliasFree rfl (.pause _) (proceeds_settle ..))
    |>.tail (.accept (n := 1) 7 rfl rfl rfl)
    |>.tail (.work 7 rfl) |>.tail (.work 7 rfl) |>.tail (.collect 7 rfl rfl)
  obtain ⟨answers, -, -, rest⟩ := superseded_iff_answers_none run
  obtain ⟨hflight, hroots⟩ := rest ⟨rfl, fun _ _ h => nomatch h⟩
  exact ⟨_, _, run, ⟨rfl, fun _ _ h => nomatch h⟩, ⟨_, rfl⟩,
    (answers "/a" 0 none [] _ _ rfl).1 rfl, hflight, (hroots "/a").1 (List.mem_singleton.2 rfl)⟩

end Traffic

end Coselect.Selection
