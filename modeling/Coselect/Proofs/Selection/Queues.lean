import Coselect.Proofs.Selection.Calls

/-! The queues of the root locks under any steps of any calls: who stands in them, what the
call at the head has left to do, and what those behind it are going to do. -/

namespace Coselect.Selection.Orchestrator

open Coselect.Graph

variable {o o' : Orchestrator} {task task' : Nat} {root root' : String} {c c' : Call}

/-- Each call stands in line for its root from its request until it leaves, once, and a call at
work is the first of its line. -/
structure Orderly (l : KeyedLock) (calls : Table Nat Call) : Prop where
  mem_queue : ∀ root task, task ∈ l.queue root ↔
    ∃ c, calls.get? task = some c ∧ c.root = root ∧ c.phase.inLine = true
  nodup : ∀ root, (l.queue root).Nodup
  holds : ∀ task c, calls.get? task = some c → c.phase.atWork = true → l.holds c.root task = true

namespace Orderly

variable {l : KeyedLock} {calls : Table Nat Call}

theorem notMem_queue (h : Orderly l calls) (hc : calls.get? task = some c)
    (hr : c.root = root → c.phase.inLine = false) : task ∉ l.queue root := by
  rw [h.mem_queue]
  rintro ⟨c', hc', hr', hl⟩
  rw [hc] at hc'
  cases hc'
  simp [hr hr'] at hl

/-- A call that comes into no line or stays in its own. -/
theorem insert (h : Orderly l calls)
    (hl : ∀ root, task ∈ l.queue root ↔ c.root = root ∧ c.phase.inLine = true)
    (hw : c.phase.atWork = true → l.holds c.root task = true) :
    Orderly l (calls.insert task c) where
  mem_queue root task' := by
    by_cases ht : task = task'
    · subst ht; simp [hl]
    · simp [h.mem_queue, ht]
  nodup := h.nodup
  holds task' c' hc' ha := by
    by_cases ht : task = task'
    · subst ht
      simp only [Table.get?_insert, ↓reduceIte, Option.some.injEq] at hc'
      subst hc'
      exact hw ha
    · simp only [Table.get?_insert, ht, ↓reduceIte] at hc'
      exact h.holds task' c' hc' ha

/-- A call that changes its phase in its line. -/
theorem update (h : Orderly l calls) (hc : calls.get? task = some c) (hr : c'.root = c.root)
    (hp : c'.phase.inLine = c.phase.inLine)
    (hw : c'.phase.atWork = true → l.holds c.root task = true) :
    Orderly l (calls.insert task c') := by
  apply h.insert
  · intro root
    rw [h.mem_queue, hr, hp]
    constructor
    · rintro ⟨c₀, h₀, h₁⟩
      rw [hc] at h₀
      cases h₀
      exact h₁
    · exact fun h₁ => ⟨c, hc, h₁⟩
  · rwa [hr]

/-- A call that is not in line goes to the end of its line. -/
theorem request (h : Orderly l calls) (hc : calls.get? task = some c)
    (hn : c.phase.inLine = false) (hr : c'.root = c.root) (hp : c'.phase = .waiting) :
    Orderly (l.request c.root task) (calls.insert task c') where
  mem_queue root task' := by
    have hm := h.mem_queue root task'
    by_cases ht : task = task'
    · subst ht
      have hq : task ∉ l.queue root := h.notMem_queue hc fun _ => hn
      by_cases hroot : root = c.root
      · simp [hroot, hr, hp, Phase.inLine]
      · simp [hroot, hq, hr, hp, Phase.inLine, Ne.symm hroot]
    · simp only [KeyedLock.queue_request, Table.get?_insert, ht, ↓reduceIte]
      by_cases hroot : root = c.root
      · subst hroot; simp [hm, Ne.symm ht]
      · simp [hroot, hm]
  nodup root := by
    rw [KeyedLock.queue_request]
    split
    next hroot =>
      have hq : task ∉ l.queue c.root := h.notMem_queue hc fun _ => hn
      refine (h.nodup c.root).append (List.nodup_singleton task) ?_
      simpa using hq
    next => exact h.nodup root
  holds task' c₀ hc₀ ha := by
    by_cases ht : task = task'
    · subst ht
      simp only [Table.get?_insert, ↓reduceIte, Option.some.injEq] at hc₀
      subst hc₀
      simp [hp, Phase.atWork] at ha
    · simp only [Table.get?_insert, ht, ↓reduceIte] at hc₀
      exact KeyedLock.holds_request_of_holds (h.holds task' c₀ hc₀ ha)

/-- The first of a line goes. -/
theorem leave (h : Orderly l calls) (hc : calls.get? task = some c)
    (hh : l.holds c.root task = true) (hp : c'.phase = .finished) :
    Orderly (l.leave c.root task) (calls.insert task c') where
  mem_queue root task' := by
    have hm := h.mem_queue root task'
    by_cases ht : task = task'
    · subst ht
      by_cases hroot : root = c.root
      · simp [hroot, hp, Phase.inLine, (h.nodup c.root).not_mem_erase]
      · have hq : task ∉ l.queue root := h.notMem_queue hc fun e => absurd e.symm hroot
        simp [hroot, hp, Phase.inLine, hq]
    · simp only [KeyedLock.queue_leave, Table.get?_insert, ht, ↓reduceIte]
      by_cases hroot : root = c.root
      · subst hroot
        rw [if_pos rfl, List.mem_erase_of_ne (Ne.symm ht), hm]
      · simp [hroot, hm]
  nodup root := by
    rw [KeyedLock.queue_leave]
    split
    · exact (h.nodup c.root).erase _
    · exact h.nodup root
  holds task' c₀ hc₀ ha := by
    by_cases ht : task = task'
    · subst ht
      simp only [Table.get?_insert, ↓reduceIte, Option.some.injEq] at hc₀
      subst hc₀
      simp [hp, Phase.atWork] at ha
    · simp only [Table.get?_insert, ht, ↓reduceIte] at hc₀
      have hh' := h.holds task' c₀ hc₀ ha
      by_cases hroot : c₀.root = c.root
      · rw [hroot] at hh'
        exact absurd (KeyedLock.holder_unique hh hh') ht
      · exact KeyedLock.holds_leave_of_ne hroot hh'

/-- A call that is in no line goes off the table. -/
theorem erase (h : Orderly l calls) (hc : calls.get? task = some c)
    (hn : c.phase.inLine = false) : Orderly l (calls.erase task) where
  mem_queue root task' := by
    by_cases ht : task' = task
    · subst ht
      simpa using h.notMem_queue hc fun _ => hn
    · simp [h.mem_queue, ht]
  nodup := h.nodup
  holds task' c' hc' ha := by
    simp only [Table.get?_erase] at hc'
    split at hc'
    next => contradiction
    next => exact h.holds task' c' hc' ha

end Orderly

/-- What is left to do for a root: the jobs of the call that holds its lock. -/
def agenda (o : Orchestrator) (root : String) : List Job :=
  match o.rootLocks.holder? root with
  | some task => ((o.calls.get? task).map (·.phase.jobs)).getD []
  | none => []

/-- What a waiting call is going to do. -/
def intent? (calls : Table Nat Call) (task : Nat) : Option Purpose :=
  (calls.get? task).bind Call.intent?

/-- What the calls that wait for a root are going to do, in their order. -/
def awaited (o : Orchestrator) (root : String) : List Purpose :=
  (o.rootLocks.queue root).filterMap (intent? o.calls)

section Views

theorem agenda_of_queue {q : List Nat} (hq : o.rootLocks.queue root = task :: q)
    (hc : o.calls.get? task = some c) : o.agenda root = c.phase.jobs := by
  simp [agenda, KeyedLock.holder?, hq, hc]

theorem agenda_of_queue_nil (hq : o.rootLocks.queue root = []) : o.agenda root = [] := by
  simp [agenda, KeyedLock.holder?, hq]

/-- A root whose line and whose calls stay the same. -/
theorem agenda_congr (hq : o'.rootLocks.queue root = o.rootLocks.queue root)
    (hc : ∀ t ∈ o.rootLocks.queue root, o'.calls.get? t = o.calls.get? t) :
    o'.agenda root = o.agenda root := by
  unfold agenda KeyedLock.holder?
  rw [hq]
  cases h : o.rootLocks.queue root with
  | nil => rfl
  | cons t q => simp [hc t (by simp [h])]

theorem awaited_congr (hq : o'.rootLocks.queue root = o.rootLocks.queue root)
    (hc : ∀ t ∈ o.rootLocks.queue root, intent? o'.calls t = intent? o.calls t) :
    o'.awaited root = o.awaited root := by
  unfold awaited
  rw [hq]
  exact List.filterMap_congr hc

theorem intent?_insert : intent? (o.calls.insert task c) task' =
    if task = task' then c.intent? else intent? o.calls task' := by
  unfold intent?
  rw [Table.get?_insert]
  split <;> rfl

theorem intent?_congr (h : o'.calls.get? task = o.calls.get? task) :
    intent? o'.calls task = intent? o.calls task := by
  unfold intent?
  rw [h]

end Views

/-- What a step may do to the selection, to what is left to do for the roots, and to what the
waiting calls are going to do; with what it logs. -/
inductive Effect (o o' : Orchestrator) : List (String × Purpose) → Prop
  | asked (root : String) (purpose : Purpose) :
      o'.state = o.state → o'.agenda = o.agenda →
      o'.awaited = Function.update o.awaited root (o.awaited root ++ [purpose]) →
      Effect o o' [(root, purpose)]
  | exchanged (c : Call) (rest : List Purpose) :
      o.awaited c.root = c.purpose :: rest → o.agenda c.root = [] →
      o'.state = (c.exchange o.state).1 →
      o'.agenda = Function.update o.agenda c.root (c.exchange o.state).2 →
      o'.awaited = Function.update o.awaited c.root rest → Effect o o' []
  | performed (root : String) (j : Job) (jobs : List Job) (u : Update) :
      o.agenda root = j :: jobs → o'.state = (j.perform root o.state u).1 →
      o'.agenda = Function.update o.agenda root jobs → o'.awaited = o.awaited → Effect o o' []
  | nothing : o'.state = o.state → o'.agenda = o.agenda → o'.awaited = o.awaited → Effect o o' []

theorem orderly_advance (h : Orderly o.rootLocks o.calls) (hc : o.calls.get? task = some c)
    (ha : Advance o task c o') : Orderly o'.rootLocks o'.calls := by
  cases ha with
  | request hp => exact h.request hc (by simp [hp, Phase.inLine]) rfl rfl
  | exchange hp hh => exact h.update hc rfl (by simp [hp, Phase.inLine]) fun _ => hh
  | leave hp => exact h.leave hc (h.holds task c hc (by simp [hp, Phase.atWork])) rfl
  | approach hp =>
    exact h.update hc rfl (by simp [hp, Phase.inLine]) fun _ =>
      h.holds task c hc (by simp [hp, Phase.atWork])
  | perform hp _ =>
    exact h.update hc rfl (by simp [hp, Phase.inLine]) fun _ =>
      h.holds task c hc (by simp [hp, Phase.atWork])

/-- Of the other roots nothing changes when one call goes on. -/
theorem views_of_ne (h : Orderly o.rootLocks o.calls) (hc : o.calls.get? task = some c)
    (hr : root ≠ c.root) (hq : o'.rootLocks.queue root = o.rootLocks.queue root)
    (hcalls : o'.calls = o.calls.insert task c') :
    o'.agenda root = o.agenda root ∧ o'.awaited root = o.awaited root := by
  have hcs : ∀ t ∈ o.rootLocks.queue root, o'.calls.get? t = o.calls.get? t := by
    intro t ht
    have hne : task ≠ t := by
      rintro rfl
      exact h.notMem_queue hc (fun e => absurd e.symm hr) ht
    rw [hcalls, Table.get?_insert, if_neg hne]
  exact ⟨agenda_congr hq hcs, awaited_congr hq fun t ht => intent?_congr (hcs t ht)⟩

theorem awaited_cons {q : List Nat} (hq : o.rootLocks.queue root = task :: q)
    (hc : o.calls.get? task = some c) :
    o.awaited root = c.intent?.toList ++ q.filterMap (intent? o.calls) := by
  have hi : intent? o.calls task = c.intent? := by simp [intent?, hc]
  unfold awaited
  rw [hq, List.filterMap_cons, hi]
  cases c.intent? <;> rfl

theorem filterMap_intent?_insert {q : List Nat} (hn : task ∉ q) :
    q.filterMap (intent? (o.calls.insert task c')) = q.filterMap (intent? o.calls) := by
  apply List.filterMap_congr
  intro t ht
  have hne : task ≠ t := fun e => hn (e ▸ ht)
  rw [intent?_insert, if_neg hne]

/-- The line of a call at work. -/
theorem exists_queue (h : Orderly o.rootLocks o.calls) (hh : o.rootLocks.holds c.root task = true) :
    ∃ q, o.rootLocks.queue c.root = task :: q ∧ task ∉ q := by
  obtain ⟨q, hq⟩ := KeyedLock.holds_iff.1 hh
  have hn := h.nodup c.root
  rw [hq] at hn
  exact ⟨q, hq, (List.nodup_cons.1 hn).1⟩

theorem effect_request (h : Orderly o.rootLocks o.calls) (hc : o.calls.get? task = some c)
    (hp : c.phase = .starting) (hq : o'.rootLocks = o.rootLocks.request c.root task)
    (hcalls : o'.calls = o.calls.insert task { c with phase := .waiting })
    (hs : o'.state = o.state) : Effect o o' [(c.root, c.purpose)] := by
  have hn : task ∉ o.rootLocks.queue c.root :=
    h.notMem_queue hc fun _ => by simp [hp, Phase.inLine]
  have hqueue : o'.rootLocks.queue c.root = o.rootLocks.queue c.root ++ [task] := by simp [hq]
  have hother : ∀ root, root ≠ c.root →
      o'.agenda root = o.agenda root ∧ o'.awaited root = o.awaited root := fun root hr =>
    views_of_ne h hc hr (by simp [hq, hr]) hcalls
  refine .asked c.root c.purpose hs ?_ ?_
  · funext root
    by_cases hr : root = c.root
    · subst hr
      cases hl : o.rootLocks.queue c.root with
      | nil =>
        rw [hl, List.nil_append] at hqueue
        rw [agenda_of_queue hqueue (by rw [hcalls, Table.get?_insert, if_pos rfl]),
          agenda_of_queue_nil hl]
        rfl
      | cons t q =>
        rw [hl] at hqueue hn
        have ht : task ≠ t := fun e => hn (e ▸ List.mem_cons_self)
        obtain ⟨c₀, hc₀, -⟩ := (h.mem_queue c.root t).1 (by simp [hl])
        rw [agenda_of_queue hl hc₀, agenda_of_queue hqueue]
        rw [hcalls, Table.get?_insert, if_neg ht, hc₀]
    · exact (hother root hr).1
  · funext root
    by_cases hr : root = c.root
    · subst hr
      rw [Function.update_self, awaited, hqueue, List.filterMap_append, hcalls,
        filterMap_intent?_insert hn]
      simp [intent?, Call.intent?, awaited]
    · rw [Function.update_of_ne hr, (hother root hr).2]

theorem effect_exchange (h : Orderly o.rootLocks o.calls) (hc : o.calls.get? task = some c)
    (hp : c.phase = .waiting) (hh : o.rootLocks.holds c.root task = true)
    (hq : o'.rootLocks = o.rootLocks)
    (hcalls : o'.calls = o.calls.insert task { c with phase := .working (c.exchange o.state).2 })
    (hs : o'.state = (c.exchange o.state).1) : Effect o o' [] := by
  obtain ⟨q, hqueue, hn⟩ := exists_queue h hh
  have hqueue' : o'.rootLocks.queue c.root = task :: q := by rw [hq, hqueue]
  have hc' : o'.calls.get? task = some { c with phase := .working (c.exchange o.state).2 } := by
    rw [hcalls, Table.get?_insert, if_pos rfl]
  have hother : ∀ root, root ≠ c.root →
      o'.agenda root = o.agenda root ∧ o'.awaited root = o.awaited root := fun root hr =>
    views_of_ne h hc hr (by rw [hq]) hcalls
  refine .exchanged c (q.filterMap (intent? o.calls)) ?_ ?_ hs ?_ ?_
  · rw [awaited_cons hqueue hc]
    simp [Call.intent?, hp]
  · rw [agenda_of_queue hqueue hc, hp]
    rfl
  · funext root
    by_cases hr : root = c.root
    · subst hr
      rw [Function.update_self, agenda_of_queue hqueue' hc']
      rfl
    · rw [Function.update_of_ne hr, (hother root hr).1]
  · funext root
    by_cases hr : root = c.root
    · subst hr
      rw [Function.update_self, awaited_cons hqueue' hc', hcalls, filterMap_intent?_insert hn]
      rfl
    · rw [Function.update_of_ne hr, (hother root hr).2]

theorem effect_leave (h : Orderly o.rootLocks o.calls) (hc : o.calls.get? task = some c)
    (hp : c.phase = .working []) (hq : o'.rootLocks = o.rootLocks.leave c.root task)
    (hcalls : o'.calls = o.calls.insert task { c with phase := .finished })
    (hs : o'.state = o.state) : Effect o o' [] := by
  have hh : o.rootLocks.holds c.root task = true := h.holds task c hc (by simp [hp, Phase.atWork])
  obtain ⟨q, hqueue, hn⟩ := exists_queue h hh
  have hqueue' : o'.rootLocks.queue c.root = q := by simp [hq, hqueue]
  have hother : ∀ root, root ≠ c.root →
      o'.agenda root = o.agenda root ∧ o'.awaited root = o.awaited root := fun root hr =>
    views_of_ne h hc hr (by simp [hq, hr]) hcalls
  have hbefore : o.agenda c.root = [] := by
    rw [agenda_of_queue hqueue hc, hp]
    rfl
  refine .nothing hs ?_ ?_
  · funext root
    by_cases hr : root = c.root
    · subst hr
      rw [hbefore]
      cases hl : q with
      | nil => exact agenda_of_queue_nil (hqueue'.trans hl)
      | cons t q' =>
        -- the next of the line has not begun, since it does not hold the lock yet
        have ht : task ≠ t := fun e => hn (by simp [hl, e])
        obtain ⟨c₀, hc₀, hr₀, -⟩ := (h.mem_queue c.root t).1 (by simp [hqueue, hl])
        rw [agenda_of_queue (hqueue'.trans hl) (c := c₀) (by rw [hcalls, Table.get?_insert, if_neg ht, hc₀])]
        apply Phase.jobs_eq_nil
        by_contra ha
        have hh₀ := h.holds t c₀ hc₀ (by simpa using ha)
        rw [hr₀] at hh₀
        exact ht (KeyedLock.holder_unique hh hh₀)
    · exact (hother root hr).1
  · funext root
    by_cases hr : root = c.root
    · subst hr
      rw [awaited_cons hqueue hc, awaited, hqueue', hcalls, filterMap_intent?_insert hn]
      simp [Call.intent?, hp]
    · exact (hother root hr).2

/-- A call at work that stays at work. -/
theorem views_of_atWork (h : Orderly o.rootLocks o.calls) (hc : o.calls.get? task = some c)
    (hw : c.phase.atWork = true) (hw' : c'.phase.atWork = true)
    (hq : o'.rootLocks = o.rootLocks) (hcalls : o'.calls = o.calls.insert task c') :
    o.agenda c.root = c.phase.jobs ∧
      o'.agenda = Function.update o.agenda c.root c'.phase.jobs ∧ o'.awaited = o.awaited := by
  obtain ⟨q, hqueue, hn⟩ := exists_queue h (h.holds task c hc hw)
  have hqueue' : o'.rootLocks.queue c.root = task :: q := by rw [hq, hqueue]
  have hc' : o'.calls.get? task = some c' := by rw [hcalls, Table.get?_insert, if_pos rfl]
  have hintent : ∀ c : Call, c.phase.atWork = true → c.intent? = none := by
    rintro ⟨r, p, ph, u⟩ hph
    cases ph <;> simp_all [Phase.atWork, Call.intent?]
  have hother : ∀ root, root ≠ c.root →
      o'.agenda root = o.agenda root ∧ o'.awaited root = o.awaited root := fun root hr =>
    views_of_ne h hc hr (by rw [hq]) hcalls
  refine ⟨agenda_of_queue hqueue hc, ?_, ?_⟩
  · funext root
    by_cases hr : root = c.root
    · subst hr
      rw [Function.update_self, agenda_of_queue hqueue' hc']
    · rw [Function.update_of_ne hr, (hother root hr).1]
  · funext root
    by_cases hr : root = c.root
    · subst hr
      rw [awaited_cons hqueue' hc', awaited_cons hqueue hc, hintent c hw, hintent c' hw', hcalls,
        filterMap_intent?_insert hn]
    · exact (hother root hr).2

theorem effect_approach (h : Orderly o.rootLocks o.calls) (hc : o.calls.get? task = some c)
    {j : Job} {jobs : List Job} (hp : c.phase = .working (j :: jobs))
    (hq : o'.rootLocks = o.rootLocks)
    (hcalls : o'.calls = o.calls.insert task { c with phase := .atRecord j jobs })
    (hs : o'.state = o.state) : Effect o o' [] := by
  obtain ⟨hb, hagenda, hawaited⟩ := views_of_atWork h hc (by simp [hp, Phase.atWork]) rfl hq hcalls
  refine .nothing hs ?_ hawaited
  rw [hagenda, Function.update_eq_self_iff, hb, hp]
  rfl

theorem effect_perform (h : Orderly o.rootLocks o.calls) (hc : o.calls.get? task = some c)
    {j : Job} {jobs : List Job} (hp : c.phase = .atRecord j jobs)
    (hq : o'.rootLocks = o.rootLocks)
    (hcalls : o'.calls = o.calls.insert task
      { c with phase := .working jobs, update := (j.perform c.root o.state c.update).2 })
    (hs : o'.state = (j.perform c.root o.state c.update).1) : Effect o o' [] := by
  obtain ⟨hb, hagenda, hawaited⟩ := views_of_atWork h hc (by simp [hp, Phase.atWork]) rfl hq hcalls
  rw [hp] at hb
  exact .performed c.root j jobs c.update hb hs hagenda hawaited

/-- What a call does in one step, seen root by root. -/
theorem effect_of_advance (h : Orderly o.rootLocks o.calls) (hc : o.calls.get? task = some c)
    (ha : Advance o task c o') : Effect o o' c.requests := by
  cases ha with
  | request hp =>
    simp only [Call.requests, hp]
    exact effect_request h hc hp rfl rfl rfl
  | exchange hp hh =>
    simp only [Call.requests, hp]
    exact effect_exchange h hc hp hh rfl rfl rfl
  | leave hp =>
    simp only [Call.requests, hp]
    exact effect_leave h hc hp rfl rfl rfl
  | approach hp =>
    simp only [Call.requests, hp]
    exact effect_approach h hc hp rfl rfl rfl
  | perform hp _ =>
    simp only [Call.requests, hp]
    exact effect_perform h hc hp rfl rfl rfl

/-- A new call and one taken off the table stand in no line. -/
theorem views_of_notMem (hn : ∀ root, task ∉ o.rootLocks.queue root)
    (hq : o'.rootLocks = o.rootLocks) (hcs : ∀ t, t ≠ task → o'.calls.get? t = o.calls.get? t) :
    o'.agenda = o.agenda ∧ o'.awaited = o.awaited := by
  have hc : ∀ root, ∀ t ∈ o.rootLocks.queue root, o'.calls.get? t = o.calls.get? t := by
    intro root t ht
    refine hcs t ?_
    rintro rfl
    exact hn root ht
  exact ⟨funext fun root => agenda_congr (by rw [hq]) (hc root),
    funext fun root => awaited_congr (by rw [hq]) fun t ht => intent?_congr (hc root t ht)⟩

end Coselect.Selection.Orchestrator
