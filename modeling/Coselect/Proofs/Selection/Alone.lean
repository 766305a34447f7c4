import Mathlib.Logic.Relation
import Coselect.Proofs.Selection.Applied
import Coselect.Proofs.Selection.Fate

/-! A call that takes its steps alone. Whatever state it starts from, its update tells what it has
done so far, and the files that are still ahead of it are those it has not touched. With no
other call in progress nobody stands in its way, so it comes to its end. -/

namespace Coselect.Selection

/-- The file whose record a call holds or awaits. -/
def Phase.record? : Phase → Option String
  | .atRecord job _ => some job.path
  | _ => none

/-- What a call that began in the state `s` has told by now. -/
structure Call.Telling (s now : State) (c : Call) : Prop where
  fate : ∀ path, c.update.Fate path (s.records.get? path) (now.records.get? path)
  nodup : c.update.added.Nodup ∧ c.update.removed.Nodup
  jobs : (c.phase.jobs.map Job.path).Nodup
  ahead : ∀ path ∈ c.phase.jobs.map Job.path, c.update.metadata.get? path = none
  fresh : c.phase = .starting ∨ c.phase = .waiting → c.update = {}
  removal : c.purpose = .remove → c.update.added = [] ∧ ∀ j ∈ c.phase.jobs, j = .release j.path

namespace Call.Telling

variable {c : Call} {s now : State} {j : Job} {jobs : List Job}

/-- Before its exchange a call has told nothing and its jobs are all ahead. -/
theorem exchange (h : c.Telling s now) (hp : c.phase = .waiting) :
    Call.Telling s (c.exchange now).1 { c with phase := .working (c.exchange now).2 } where
  fate := by simpa only [records_exchange] using h.fate
  nodup := h.nodup
  jobs := nodup_jobs_exchange
  ahead path _ := by
    rw [h.fresh (.inr hp)]
    rfl
  fresh := by simp
  removal hr := by
    refine ⟨(h.removal hr).1, fun j hj => ?_⟩
    change c.purpose = .remove at hr
    simp only [Phase.jobs, Call.exchange, hr] at hj
    obtain ⟨path, -, rfl⟩ := List.mem_map.1 hj
    rfl

/-- A job tells of its own file, which no later job is about. -/
theorem perform (h : c.Telling s now) (hp : c.phase = .atRecord j jobs) :
    Call.Telling s (j.perform c.root now c.update).1
      { c with phase := .working jobs, update := (j.perform c.root now c.update).2 } := by
  have hjobs := h.jobs
  have hahead := h.ahead
  have hremoval := h.removal
  simp only [hp, Phase.jobs, List.map_cons, List.nodup_cons, List.forall_mem_cons]
    at hjobs hahead hremoval
  obtain ⟨hadded, hremoved, hrecord⟩ := (h.fate j.path).eq_of_get?_metadata hahead.1
  constructor
  case fate =>
    intro path
    by_cases hpath : path = j.path
    · rw [hpath, ← hrecord]
      exact fate_perform hadded hremoved hahead.1
    · rw [get?_records_perform_of_ne hpath]
      exact (h.fate path).congr (perform_of_ne hpath).1 (perform_of_ne hpath).2.1
        (perform_of_ne hpath).2.2
  case nodup => exact nodup_perform h.nodup
  case jobs => exact hjobs.2
  case ahead =>
    intro path hpath
    have hne : path ≠ j.path := fun e => hjobs.1 (e ▸ hpath)
    exact (perform_of_ne hne).2.2.trans (hahead.2 path hpath)
  case fresh => simp
  case removal =>
    intro hr
    obtain ⟨hnone, hj, hrest⟩ := hremoval hr
    refine ⟨List.eq_nil_of_subset_nil ?_, hrest⟩
    rw [hj, ← hnone]
    exact added_release_subset

end Call.Telling

namespace Orchestrator

variable {o o' o'' : Orchestrator} {task n fuel : Nat} {root : String} {c c' : Call} {s : State}
  {log : List (String × Purpose)}

/-- A call takes some steps, and no other call takes one in between. -/
def Alone (task : Nat) : Orchestrator → Orchestrator → Prop :=
  Relation.ReflTransGen fun o o' => o.step? task = some o'

theorem alone_goOn (task fuel : Nat) (o : Orchestrator) : Alone task o (goOn task fuel o) := by
  induction fuel generalizing o with
  | zero => exact .refl
  | succ fuel ih =>
    unfold goOn
    split
    next => exact .refl
    next o' hs => exact .head hs (ih o')

/-! ### What the update tells -/

theorem telling_start (root : String) (purpose : Purpose) :
    Call.Telling s s { root, purpose } where
  fate path := .of_empty path _
  nodup := ⟨List.nodup_nil, List.nodup_nil⟩
  jobs := List.nodup_nil
  ahead := by simp [Phase.jobs]
  fresh _ := rfl
  removal _ := ⟨rfl, by simp [Phase.jobs]⟩

theorem telling_advance (h : c.Telling s o.state) (ha : Advance o task c o') :
    ∃ c', o'.calls.get? task = some c' ∧ c'.purpose = c.purpose ∧ c'.Telling s o'.state := by
  cases ha with
  | request hp =>
    refine ⟨_, Table.get?_insert_self .., rfl, h.fate, h.nodup, List.nodup_nil,
      by simp [Phase.jobs], fun _ => h.fresh (.inl hp), fun hr => ⟨(h.removal hr).1, by simp [Phase.jobs]⟩⟩
  | exchange hp hh => exact ⟨_, Table.get?_insert_self .., rfl, h.exchange hp⟩
  | leave hp =>
    exact ⟨_, Table.get?_insert_self .., rfl, h.fate, h.nodup, List.nodup_nil,
      by simp [Phase.jobs], by simp, fun hr => ⟨(h.removal hr).1, by simp [Phase.jobs]⟩⟩
  | approach hp =>
    have hjobs := h.jobs
    have hahead := h.ahead
    have hremoval := h.removal
    rw [hp] at hjobs hahead hremoval
    exact ⟨_, Table.get?_insert_self .., rfl, h.fate, h.nodup, hjobs, hahead, by simp, hremoval⟩
  | perform hp hh => exact ⟨_, Table.get?_insert_self .., rfl, h.perform hp⟩

theorem Alone.telling (h : Alone task o o') (hc : o.calls.get? task = some c)
    (ht : c.Telling s o.state) :
    ∃ c', o'.calls.get? task = some c' ∧ c'.purpose = c.purpose ∧ c'.Telling s o'.state := by
  induction h with
  | refl => exact ⟨c, hc, rfl, ht⟩
  | tail _ hs ih =>
    obtain ⟨c₁, hc₁, hp₁, ht₁⟩ := ih
    obtain ⟨c₂, hc₂, hp₂, ht₂⟩ := telling_advance ht₁ (advance_of_step? hc₁ hs)
    exact ⟨c₂, hc₂, hp₂.trans hp₁, ht₂⟩

/-! ### Coming to the end -/

/-- Whether a task holds or awaits the lock of a record. -/
def AsksRecord (calls : Table Nat Call) (path : String) (task : Nat) : Prop :=
  ∃ c, calls.get? task = some c ∧ c.phase.record? = some path

theorem asksRecord_insert {calls : Table Nat Call} {path : String} {t : Nat} :
    AsksRecord (calls.insert task c) path t ↔
      if t = task then c.phase.record? = some path else AsksRecord calls path t := by
  unfold AsksRecord
  by_cases ht : t = task
  · subst ht; simp
  · simp [ht, Ne.symm ht]

theorem lists_advance (h : o.recordLocks.Lists (AsksRecord o.calls))
    (hc : o.calls.get? task = some c) (ha : Advance o task c o') :
    o'.recordLocks.Lists (AsksRecord o'.calls) := by
  have hown : ∀ path, AsksRecord o.calls path task ↔ c.phase.record? = some path := fun path => by
    simp [AsksRecord, hc]
  have hsame : ∀ {c'}, c.phase.record? = none → c'.phase.record? = none →
      o.recordLocks.Lists (AsksRecord (o.calls.insert task c')) := by
    intro c' hbefore hafter
    refine h.congr fun path t => ?_
    rw [asksRecord_insert]
    split
    next ht => rw [ht, hown, hbefore, hafter]
    next => rfl
  cases ha with
  | request hp => exact hsame (by rw [hp]; rfl) rfl
  | exchange hp => exact hsame (by rw [hp]; rfl) rfl
  | leave hp => exact hsame (by rw [hp]; rfl) rfl
  | @approach j jobs hp =>
    have hn : ¬ AsksRecord o.calls j.path task := by rw [hown, hp]; simp [Phase.record?]
    refine (h.request hn).congr fun path t => ?_
    rw [asksRecord_insert]
    split
    next ht => rw [ht, hown, hp]; simp [Phase.record?, eq_comm]
    next ht => simp [ht]
  | @perform j jobs hp hh =>
    refine h.leave.congr fun path t => ?_
    rw [asksRecord_insert]
    split
    next ht => rw [ht, hown, hp]; simp [Phase.record?, eq_comm]
    next ht => simp [ht]

theorem Runs.lists (h : Runs log o) : o.recordLocks.Lists (AsksRecord o.calls) := by
  induction h with
  | initial => constructor <;> simp [AsksRecord, KeyedLock.queue]
  | start task root purpose _ hn ih =>
    refine ih.congr fun path t => ?_
    rw [Orchestrator.start, asksRecord_insert]
    split
    next ht => simp [ht, AsksRecord, hn, Phase.record?]
    next => rfl
  | step task _ hc hs ih => exact lists_advance ih hc (advance_of_step? hc hs)
  | collect task _ hc hf ih =>
    refine ih.congr fun path t => ?_
    by_cases ht : t = task
    · simp [Orchestrator.collect, AsksRecord, ht, hc, hf, Phase.record?]
    · simp [Orchestrator.collect, AsksRecord, ht]

/-- All calls but one are finished. -/
def IdleBut (o : Orchestrator) (task : Nat) : Prop :=
  ∀ t c, t ≠ task → o.calls.get? t = some c → c.phase = .finished

theorem IdleBut.advance (h : o.IdleBut task) (ha : Advance o task c o') : o'.IdleBut task := by
  intro t c' ht hc'
  obtain ⟨phase, update, -, hcalls⟩ := ha.calls
  rw [hcalls, Table.get?_insert, if_neg (Ne.symm ht)] at hc'
  exact h t c' ht hc'

/-- A call that is not finished can go on when all others are. -/
theorem exists_step (run : Runs log o) (h : o.IdleBut task) (hc : o.calls.get? task = some c)
    (hp : c.phase ≠ .finished) : ∃ o', o.step? task = some o' := by
  unfold step?
  rw [hc]
  dsimp only
  cases hphase : c.phase with
  | starting => exact ⟨_, rfl⟩
  | finished => exact absurd hphase hp
  | working jobs => cases jobs <;> exact ⟨_, rfl⟩
  | waiting =>
    have horderly := run.kept.orderly
    have hlists : o.rootLocks.Lists fun root t => ∃ c, o.calls.get? t = some c ∧ c.root = root ∧
        c.phase.inLine = true := ⟨horderly.mem_queue, horderly.nodup⟩
    have hholds : o.rootLocks.holds c.root task = true := by
      refine hlists.holds ⟨c, hc, rfl, by rw [hphase]; rfl⟩ ?_
      rintro t ⟨c', hc', -, hline⟩
      by_contra ht
      rw [h t c' ht hc'] at hline
      exact Bool.false_ne_true hline
    exact ⟨_, if_pos hholds⟩
  | atRecord j jobs =>
    have hholds : o.recordLocks.holds j.path task = true := by
      refine run.lists.holds ⟨c, hc, by rw [hphase]; rfl⟩ ?_
      rintro t ⟨c', hc', hrecord⟩
      by_contra ht
      rw [h t c' ht hc'] at hrecord
      exact nomatch hrecord
    exact ⟨_, if_pos hholds⟩

/-- How many steps are left to a call that will have at most `n` jobs. -/
def stepsLeft (n : Nat) : Phase → Nat
  | .starting => 2 * n + 3
  | .waiting => 2 * n + 2
  | .working jobs => 2 * jobs.length + 1
  | .atRecord _ jobs => 2 * jobs.length + 2
  | .finished => 0

/-- A call that has not yet exchanged its root's contribution will have at most `n` jobs. -/
def Modest (n : Nat) (o : Orchestrator) (c : Call) : Prop :=
  c.phase = .starting ∨ c.phase = .waiting → (c.exchange o.state).2.length ≤ n

theorem stepsLeft_advance (h : Modest n o c) (ha : Advance o task c o') :
    ∃ c', o'.calls.get? task = some c' ∧ Modest n o' c' ∧
      stepsLeft n c'.phase < stepsLeft n c.phase := by
  cases ha with
  | request hp =>
    exact ⟨_, Table.get?_insert_self .., fun _ => h (.inl hp), by simp [stepsLeft, hp]⟩
  | exchange hp hh =>
    have := h (.inr hp)
    exact ⟨_, Table.get?_insert_self .., by simp [Modest], by simp only [stepsLeft, hp]; omega⟩
  | leave hp => exact ⟨_, Table.get?_insert_self .., by simp [Modest], by simp [stepsLeft, hp]⟩
  | approach hp =>
    refine ⟨_, Table.get?_insert_self .., by simp [Modest], ?_⟩
    simp only [stepsLeft, hp, List.length_cons]
    omega
  | perform hp hh => exact ⟨_, Table.get?_insert_self .., by simp [Modest], by simp [stepsLeft, hp]⟩

theorem finished_goOn (run : Runs log o) (h : o.IdleBut task) (hc : o.calls.get? task = some c)
    (hn : Modest n o c) (hfuel : stepsLeft n c.phase ≤ fuel) :
    ∃ c', (goOn task fuel o).calls.get? task = some c' ∧ c'.phase = .finished := by
  induction fuel generalizing o c log with
  | zero =>
    refine ⟨c, hc, ?_⟩
    cases hp : c.phase <;> simp [hp, stepsLeft] at hfuel ⊢
  | succ fuel ih =>
    by_cases hp : c.phase = .finished
    · have hstuck : o.step? task = none := by simp [step?, hc, hp]
      refine ⟨c, ?_, hp⟩
      rw [goOn, hstuck]
      exact hc
    · obtain ⟨o', hs⟩ := exists_step run h hc hp
      have ha := advance_of_step? hc hs
      obtain ⟨c', hc', hn', hlt⟩ := stepsLeft_advance hn ha
      have hgo : goOn task (fuel + 1) o = goOn task fuel o' := by rw [goOn, hs]
      rw [hgo]
      exact ih (run.step task hc hs) (h.advance ha) hc' hn' (by omega)

theorem length_exchange_le (o : Orchestrator) (root : String) (purpose : Purpose) :
    2 * (Call.exchange { root, purpose } o.state).2.length + 3 ≤ o.enough root purpose := by
  have hold : ((o.state.contributions.get? root).getD .empty).keys.length =
      enough.oldSize o root := by
    unfold enough.oldSize
    cases o.state.contributions.get? root <;> simp [Table.keys, Table.size, Table.empty]
  cases purpose with
  | apply g =>
    have hfilter := List.length_filter_le (fun path => !(Contribution.ofGraph root g).contains path)
      ((o.state.contributions.get? root).getD .empty).keys
    simp only [Call.exchange, List.length_append, List.length_map, enough, Table.size]
    omega
  | remove =>
    simp only [Call.exchange, List.length_map, enough]
    omega

theorem get?_freshCall (o : Orchestrator) : o.calls.get? o.freshCall = none := by
  have hle : ∀ (keys : List Nat) (m : Nat),
      m ≤ keys.foldl (fun n k => max n (k + 1)) m ∧
        ∀ k ∈ keys, k < keys.foldl (fun n k => max n (k + 1)) m := by
    intro keys
    induction keys with
    | nil => simp
    | cons k keys ih =>
      intro m
      obtain ⟨hm, hk⟩ := ih (max m (k + 1))
      rw [List.foldl_cons]
      refine ⟨by omega, fun k' hk' => ?_⟩
      rcases List.mem_cons.1 hk' with rfl | hk'
      · omega
      · exact hk k' hk'
  by_contra hne
  have hmem := Table.mem_keys_iff.2 (Option.isSome_iff_ne_none.2 hne)
  exact Nat.lt_irrefl _ ((hle o.calls.keys 0).2 _ hmem)

end Orchestrator

end Coselect.Selection
