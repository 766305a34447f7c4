import Coselect.Proofs.Selection.LockTable

/-! What an act comes to on a sound table. A task without a visit can only ask for a key; one with a visit
goes on when it was called or cancelled, can be cancelled at any time, and leaves when it is inside. Any
other act does nothing, and none fails. -/

namespace Coselect.Selection.LockTable

/-- A task that cannot act so where it stands: there is no such visit, it waits or is past the lock already,
or it is not inside. -/
def Idle (s : LockTable) : Act → Prop
  | .request _ => False
  | .goOn n => ∀ v ∈ s.visits, v.number = n →
      v.inside = true ∨ (s.lock v.lock).ticket? n = some .waiting
  | .cancel n => ∀ v ∈ s.visits, v.number ≠ n
  | .leave n => ∀ v ∈ s.visits, v.number = n → v.inside = false

/-- What an act comes to, with the key and the number of the visit that gets inside by it. -/
inductive Step (s : LockTable) : Act → Option (String × Nat) → LockTable → Prop
  | request (key : String) : Step s (.request key)
      (if (s.lockFor key).2.isFree then some (key, s.requests) else none) (s.request key)
  | enter {v : Visit} : v ∈ s.visits → (s.lock v.lock).ticket? v.number = some .called →
      Step s (.goOn v.number) (some (v.key, v.number)) (s.enter v)
  | giveUp {s' : LockTable} {v : Visit} {t : Ticket} : v ∈ s.visits →
      (s.lock v.lock).ticket? v.number = some t → t.wanted = false →
      Departs s s' v ((s.lock v.lock).giveUp v.number) → Step s (.goOn v.number) none s'
  | cancel {v : Visit} : v ∈ s.visits →
      Step s (.cancel v.number) none (s.setLock v.lock ((s.lock v.lock).cancel v.number))
  | leave {s' : LockTable} {v : Visit} : v ∈ s.visits → v.inside = true →
      Departs s s' v (s.lock v.lock).release → Step s (.leave v.number) none s'
  | nothing {act : Act} : s.Idle act → Step s act none s

variable {s : LockTable} {v : Visit} {n : Nat} {t : Ticket} {act : Act}

theorem number_ne (h : s.visit? n = none) : ∀ v ∈ s.visits, v.number ≠ n := by
  simpa using List.find?_eq_none.1 h

theorem report_of_idle (h : s.Idle act) (queues : KeyedLock) : s.report queues act = queues := by
  cases act with
  | request key => exact h.elim
  | goOn n => rfl
  | cancel n =>
    have hnone : s.visit? n = none := List.find?_eq_none.2 fun v hv => by simpa using h v hv
    rw [report, hnone]
  | leave n =>
    rw [report]
    cases hvisit : s.visit? n with
    | none => rfl
    | some v =>
      have hn : v.number = n := by simpa using List.find?_some hvisit
      exact if_neg (by simp [h v (List.mem_of_find?_eq_some hvisit) hn])

namespace Sound

/-- Who stands in the line of a lock is not past it. -/
theorem inside_eq_false (h : Sound s) (hv : v ∈ s.visits)
    (ht : (s.lock v.lock).ticket? v.number = some t) : v.inside = false := by
  have hserves := (h.fits_of_mem hv).serves
  have hnumbered := h.among_numbered v.key
  obtain ⟨w, hw, hwin, hnumber⟩ := hserves.mem_line ((hserves.ticket?_eq_some_iff hnumbered).1 ht)
  rwa [hnumbered.eq_of_number (mem_among.2 ⟨hv, rfl⟩) hw hnumber] at hwin

theorem step_giveUp (h : Sound s) (hv : v ∈ s.visits)
    (ht : (s.lock v.lock).ticket? v.number = some t) (hno : t.wanted = false) :
    ∃ got s', (s.giveUp v).map (none, ·) = .ok (got, s') ∧ Step s (.goOn v.number) got s' := by
  obtain ⟨s', hdepart, hdeparts⟩ := h.departs hv ((s.lock v.lock).giveUp v.number)
  have hgiveUp : s.giveUp v = .ok s' := hdepart
  exact ⟨none, s', by rw [hgiveUp]; rfl, .giveUp hv ht hno hdeparts⟩

theorem step_goOn (h : Sound s) (hv : v ∈ s.visits) :
    ∃ got s', s.perform (.goOn v.number) = .ok (got, s') ∧ Step s (.goOn v.number) got s' := by
  have hidle : v.inside = true ∨ (s.lock v.lock).ticket? v.number = some .waiting →
      Step s (.goOn v.number) none s := fun hstands => .nothing fun w hw hn => by
    rwa [h.numbered.eq_of_number hv hw hn]
  rw [perform, h.visit?_eq_some_iff.2 ⟨hv, rfl⟩]
  dsimp only
  cases ht : (s.lock v.lock).ticket? v.number with
  | none =>
    have hin : v.inside = true := by
      by_contra hin
      obtain ⟨ticket, hticket⟩ := h.exists_ticket hv (by simpa using hin)
      simp [ht] at hticket
    exact ⟨none, s, rfl, hidle (.inl hin)⟩
  | some t =>
    cases t with
    | waiting => exact ⟨none, s, rfl, hidle (.inr ht)⟩
    | called => exact ⟨_, _, rfl, .enter hv ht⟩
    | stopped => exact h.step_giveUp hv ht rfl
    | cancelled => exact h.step_giveUp hv ht rfl

theorem step_leave (h : Sound s) (hv : v ∈ s.visits) :
    ∃ got s', s.perform (.leave v.number) = .ok (got, s') ∧ Step s (.leave v.number) got s' := by
  rw [perform, h.visit?_eq_some_iff.2 ⟨hv, rfl⟩]
  dsimp only
  split
  next hin =>
    obtain ⟨s', hdepart, hdeparts⟩ := h.departs hv (s.lock v.lock).release
    have htaken := (h.fits_of_mem hv).serves.taken_of_inside (mem_among.2 ⟨hv, rfl⟩) hin
    have hleave : s.leave v = .ok s' := (if_pos htaken).trans hdepart
    exact ⟨none, s', by rw [hleave]; rfl, .leave hv hin hdeparts⟩
  next hin =>
    refine ⟨none, s, rfl, .nothing fun w hw hn => ?_⟩
    rw [h.numbered.eq_of_number hv hw hn]
    simpa using hin

/-- No act fails, and each is one of these steps. -/
theorem step (h : Sound s) (act : Act) :
    ∃ got s', s.perform act = .ok (got, s') ∧ Step s act got s' := by
  cases act with
  | request key => exact ⟨_, _, rfl, .request key⟩
  | goOn n =>
    cases hvisit : s.visit? n with
    | none =>
      exact ⟨none, s, by rw [perform, hvisit], .nothing fun v hv hn => (number_ne hvisit v hv hn).elim⟩
    | some v =>
      obtain ⟨hv, rfl⟩ := h.visit?_eq_some_iff.1 hvisit
      exact h.step_goOn hv
  | cancel n =>
    cases hvisit : s.visit? n with
    | none => exact ⟨none, s, by rw [perform, hvisit], .nothing (number_ne hvisit)⟩
    | some v =>
      obtain ⟨hv, rfl⟩ := h.visit?_eq_some_iff.1 hvisit
      exact ⟨none, _, by rw [perform, hvisit], .cancel hv⟩
  | leave n =>
    cases hvisit : s.visit? n with
    | none =>
      exact ⟨none, s, by rw [perform, hvisit], .nothing fun v hv hn => (number_ne hvisit v hv hn).elim⟩
    | some v =>
      obtain ⟨hv, rfl⟩ := h.visit?_eq_some_iff.1 hvisit
      exact h.step_leave hv

end Sound

end Coselect.Selection.LockTable
