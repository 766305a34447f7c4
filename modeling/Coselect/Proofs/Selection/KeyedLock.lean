import Mathlib.Data.List.Nodup
import Coselect.Proofs.Table
import Coselect.Selection.KeyedLock

/-! The queues of a lock after a request and after a leave. -/

namespace Coselect.Selection.KeyedLock

variable {l : KeyedLock} {key key' : String} {task task' : Nat}

theorem queue_setQueue (q : List Nat) :
    (l.setQueue key q).queue key' = if key' = key then q else l.queue key' := by
  unfold queue setQueue
  split
  next h =>
    rw [List.isEmpty_iff] at h
    subst h
    by_cases hk : key' = key <;> simp [hk]
  next h =>
    by_cases hk : key' = key
    · simp [hk]
    · simp [hk, Ne.symm hk]

@[simp] theorem queue_request :
    (l.request key task).queue key' =
      if key' = key then l.queue key ++ [task] else l.queue key' := queue_setQueue _

@[simp] theorem queue_leave :
    (l.leave key task).queue key' =
      if key' = key then (l.queue key).erase task else l.queue key' := queue_setQueue _

theorem holds_iff : l.holds key task = true ↔ ∃ q, l.queue key = task :: q := by
  unfold holds holder?
  cases l.queue key <;> simp

/-- A key is held by one task. -/
theorem holder_unique (h : l.holds key task = true) (h' : l.holds key task' = true) :
    task = task' := by
  obtain ⟨q, hq⟩ := holds_iff.1 h
  obtain ⟨q', hq'⟩ := holds_iff.1 h'
  rw [hq] at hq'
  exact (List.cons.inj hq').1

theorem holds_request_of_holds (h : l.holds key task = true) :
    (l.request key' task').holds key task = true := by
  obtain ⟨q, hq⟩ := holds_iff.1 h
  rw [holds_iff, queue_request]
  split
  next hk => exact ⟨q ++ [task'], by rw [← hk, hq]; rfl⟩
  next => exact ⟨q, hq⟩

theorem holds_leave_of_ne (hk : key ≠ key') (h : l.holds key task = true) :
    (l.leave key' task').holds key task = true := by
  obtain ⟨q, hq⟩ := holds_iff.1 h
  rw [holds_iff, queue_leave, if_neg hk]
  exact ⟨q, hq⟩

/-- The queues of a lock hold the tasks that ask for a key, each once. -/
structure Lists (l : KeyedLock) (asks : String → Nat → Prop) : Prop where
  mem_queue : ∀ key task, task ∈ l.queue key ↔ asks key task
  nodup : ∀ key, (l.queue key).Nodup

namespace Lists

variable {asks asks' : String → Nat → Prop}

theorem congr (h : l.Lists asks) (heq : ∀ key task, asks' key task ↔ asks key task) :
    l.Lists asks' :=
  ⟨fun key task => (h.mem_queue key task).trans (heq key task).symm, h.nodup⟩

theorem request (h : l.Lists asks) (hn : ¬ asks key task) :
    (l.request key task).Lists fun k t => asks k t ∨ k = key ∧ t = task where
  mem_queue k t := by
    rw [queue_request]
    split
    next hk => subst hk; simp [h.mem_queue]
    next hk => simp [h.mem_queue, hk]
  nodup k := by
    rw [queue_request]
    split
    next =>
      refine (h.nodup key).append (List.nodup_singleton task) ?_
      simpa [h.mem_queue] using hn
    next => exact h.nodup k

theorem leave (h : l.Lists asks) :
    (l.leave key task).Lists fun k t => asks k t ∧ ¬ (k = key ∧ t = task) where
  mem_queue k t := by
    rw [queue_leave]
    split
    next hk =>
      subst hk
      rw [(h.nodup k).mem_erase_iff, h.mem_queue]
      tauto
    next hk => simp [h.mem_queue, hk]
  nodup k := by
    rw [queue_leave]
    split
    next => exact (h.nodup key).erase task
    next => exact h.nodup k

/-- The only task that asks for a key holds it. -/
theorem holds (h : l.Lists asks) (hasks : asks key task) (honly : ∀ t, asks key t → t = task) :
    l.holds key task = true := by
  rw [holds_iff]
  have hmem := (h.mem_queue key task).2 hasks
  cases hq : l.queue key with
  | nil => simp [hq] at hmem
  | cons t q => exact ⟨q, by rw [honly t ((h.mem_queue key t).1 (by simp [hq]))]⟩

end Lists

/-- Only keys that are held or awaited have a queue. -/
def Trim (l : KeyedLock) : Prop := ∀ key, l.queues.get? key ≠ some []

theorem Trim.setQueue (h : Trim l) (key : String) (tasks : List Nat) : Trim (l.setQueue key tasks) := by
  intro key'
  unfold KeyedLock.setQueue
  cases tasks with
  | nil =>
    by_cases hk : key' = key
    · simp [hk]
    · simpa [hk] using h key'
  | cons task tasks =>
    by_cases hk : key = key'
    · simp [hk]
    · simpa [hk] using h key'

theorem Trim.contains_iff (h : Trim l) : l.queues.contains key = true ↔ ∃ task, task ∈ l.queue key := by
  unfold KeyedLock.queue
  rw [Table.contains_iff]
  cases hqueue : l.queues.get? key with
  | none => simp
  | some tasks =>
    have hne : tasks ≠ [] := fun hnil => h key (hnil ▸ hqueue)
    simpa using List.exists_mem_of_ne_nil _ hne

end Coselect.Selection.KeyedLock
