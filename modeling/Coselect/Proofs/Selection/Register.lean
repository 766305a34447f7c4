import Mathlib.Logic.Function.Basic
import Coselect.Selection.Service

/-! The table of requests in flight against the requests whose analysis goes on: the table
holds those that were not superseded. A request is superseded once a newer one for its root
begins or the root is withdrawn, and not before. -/

namespace Coselect.Selection

/-- The table of requests in flight and the marks of those superseded, by the roots for which
requests go on. -/
structure Register (s : Service) (going : Nat → Option String) : Prop where
  inFlight : ∀ root n, s.inFlight.get? root = some n ↔ going n = some root ∧ n ∉ s.cancelled
  lt : ∀ n, n ∈ s.cancelled ∨ (going n).isSome → n < s.nextRequest

namespace Service

variable {s s' : Service} {going : Nat → Option String} {root root' : String} {n m : Nat}

@[simp] theorem inFlight_supersede : (s.supersede root).inFlight = s.inFlight := by
  unfold supersede
  split <;> rfl

@[simp] theorem manualRoots_supersede : (s.supersede root).manualRoots = s.manualRoots := by
  unfold supersede
  split <;> rfl

@[simp] theorem orchestrator_supersede : (s.supersede root).orchestrator = s.orchestrator := by
  unfold supersede
  split <;> rfl

@[simp] theorem nextRequest_supersede : (s.supersede root).nextRequest = s.nextRequest := by
  unfold supersede
  split <;> rfl

@[simp] theorem cancelled_land : (s.land root n).cancelled = s.cancelled := by
  unfold land
  split <;> rfl

@[simp] theorem nextRequest_land : (s.land root n).nextRequest = s.nextRequest := by
  unfold land
  split <;> rfl

@[simp] theorem manualRoots_land : (s.land root n).manualRoots = s.manualRoots := by
  unfold land
  split <;> rfl

@[simp] theorem orchestrator_land : (s.land root n).orchestrator = s.orchestrator := by
  unfold land
  split <;> rfl

@[simp] theorem orchestrator_begin : (s.begin root).2.orchestrator = s.orchestrator :=
  orchestrator_supersede

@[simp] theorem orchestrator_withdraw : (s.withdraw root).orchestrator = s.orchestrator :=
  orchestrator_supersede

theorem accept_eq {accepted : Bool} (h : s.accept root n = (accepted, s')) :
    (accepted = true ↔ n ∉ s.cancelled) ∧ s'.inFlight = (s.land root n).inFlight ∧
      s'.cancelled = s.cancelled ∧ s'.nextRequest = s.nextRequest ∧
      s'.orchestrator = s.orchestrator ∧
      s'.manualRoots = if accepted then s.manualRoots.insert root else s.manualRoots := by
  unfold accept at h
  simp only [cancelled_land] at h
  split at h
  all_goals
    next hc =>
      obtain ⟨rfl, rfl⟩ := Prod.mk.injEq .. ▸ h
      simpa using hc

end Service

namespace Register

variable {s s' : Service} {going : Nat → Option String} {root root' : String} {n m : Nat}

/-- Of the requests that go on those for the root join the ones superseded. -/
theorem mem_cancelled_supersede (h : Register s going) (hn : going n = some root) :
    n ∈ (s.supersede root').cancelled ↔ n ∈ s.cancelled ∨ root' = root := by
  unfold Service.supersede
  cases hf : s.inFlight.get? root' with
  | none =>
    refine ⟨Or.inl, ?_⟩
    rintro (hc | rfl)
    · exact hc
    · by_contra hc
      rw [(h.inFlight root' n).2 ⟨hn, hc⟩] at hf
      contradiction
  | some m =>
    simp only [List.mem_cons]
    have hm := ((h.inFlight root' m).1 hf).1
    constructor
    · rintro (rfl | hc)
      · rw [hm] at hn
        exact .inr (Option.some.inj hn)
      · exact .inl hc
    · rintro (hc | rfl)
      · exact .inr hc
      · by_cases hc : n ∈ s.cancelled
        · exact .inr hc
        · rw [(h.inFlight root' n).2 ⟨hn, hc⟩] at hf
          exact .inl (Option.some.inj hf)

theorem lt_of_mem_cancelled_supersede (h : Register s going)
    (hn : n ∈ (s.supersede root).cancelled) : n < s.nextRequest := by
  unfold Service.supersede at hn
  cases hf : s.inFlight.get? root with
  | none =>
    rw [hf] at hn
    exact h.lt n (.inl hn)
  | some m =>
    simp only [hf, List.mem_cons] at hn
    rcases hn with rfl | hc
    · exact h.lt n (.inr (by simp [((h.inFlight root n).1 hf).1]))
    · exact h.lt n (.inl hc)

/-- What is in flight for another root stays as it is. -/
theorem inFlight_iff_of_ne (h : Register s going) (hr : root' ≠ root) :
    s.inFlight.get? root = some n ↔
      going n = some root ∧ n ∉ (s.supersede root').cancelled := by
  rw [h.inFlight]
  refine and_congr_right fun hn => not_congr ?_
  rw [h.mem_cancelled_supersede hn]
  simp [hr]

/-- Only the table of requests in flight and their marks matter. -/
theorem congr (h : Register s going) (hf : s'.inFlight = s.inFlight)
    (hc : s'.cancelled = s.cancelled) (hn : s'.nextRequest = s.nextRequest) : Register s' going :=
  ⟨by rw [hf, hc]; exact h.inFlight, by rw [hc, hn]; exact h.lt⟩

theorem begin (h : Register s going) (hb : s.begin root = (n, s')) :
    n = s.nextRequest ∧ n ∉ s'.cancelled ∧ Register s' (Function.update going n (some root)) := by
  obtain ⟨rfl, rfl⟩ := Prod.mk.injEq .. ▸ hb
  have hfresh : going s.nextRequest = none := by
    by_contra hn
    exact absurd (h.lt _ (.inr (Option.isSome_iff_ne_none.2 hn))) (Nat.lt_irrefl _)
  have hnew : s.nextRequest ∉ (s.supersede root).cancelled := fun hc =>
    absurd (h.lt_of_mem_cancelled_supersede hc) (Nat.lt_irrefl _)
  simp only [Service.nextRequest_supersede]
  refine ⟨trivial, hnew, ?_, ?_⟩
  · intro root' m
    simp only [Service.inFlight_supersede, Table.get?_insert]
    by_cases hr : root = root'
    · subst hr
      simp only [↓reduceIte, Option.some.injEq]
      constructor
      · rintro rfl
        exact ⟨Function.update_self .., hnew⟩
      · rintro ⟨hm, hc⟩
        by_contra hne
        rw [Function.update_of_ne (Ne.symm hne)] at hm
        exact hc ((h.mem_cancelled_supersede hm).2 (.inr rfl))
    · rw [if_neg hr, h.inFlight_iff_of_ne hr]
      by_cases hm : m = s.nextRequest
      · subst hm
        simp [hfresh, hr]
      · rw [Function.update_of_ne hm]
  · intro m hm
    simp only [Function.update_apply] at hm
    rcases hm with hc | hg
    · exact Nat.lt_succ_of_lt (h.lt_of_mem_cancelled_supersede hc)
    · split at hg
      next e => exact e ▸ Nat.lt_succ_self _
      next => exact Nat.lt_succ_of_lt (h.lt m (.inr hg))

theorem withdraw (h : Register s going) : Register (s.withdraw root) going where
  inFlight root' n := by
    simp only [Service.withdraw, Service.inFlight_supersede, Table.get?_erase]
    by_cases hr : root' = root
    · subst hr
      simp only [↓reduceIte, reduceCtorEq, false_iff, not_and, not_not]
      exact fun hn => (h.mem_cancelled_supersede hn).2 (.inr rfl)
    · rw [if_neg hr, h.inFlight_iff_of_ne (Ne.symm hr)]
  lt n hn := by
    simp only [Service.withdraw, Service.nextRequest_supersede] at hn ⊢
    rcases hn with hc | hg
    · exact h.lt_of_mem_cancelled_supersede hc
    · exact h.lt n (.inr hg)

/-- A request whose analysis is over is not in flight any more. -/
theorem land (h : Register s going) (hn : going n = some root) :
    Register (s.land root n) (Function.update going n none) where
  inFlight root' m := by
    have hentry : (s.land root n).inFlight.get? root' =
        if s.inFlight.get? root' = some n then none else s.inFlight.get? root' := by
      unfold Service.land
      by_cases hf : s.inFlight.get? root = some n
      · rw [if_pos hf, Table.get?_erase]
        by_cases hr : root' = root
        · rw [if_pos hr, hr, if_pos hf]
        · have hne : s.inFlight.get? root' ≠ some n := by
            intro hf'
            rw [((h.inFlight root' n).1 hf').1] at hn
            exact hr (Option.some.inj hn)
          rw [if_neg hr, if_neg hne]
      · have hne : s.inFlight.get? root' ≠ some n := by
          intro hf'
          have hn' := ((h.inFlight root' n).1 hf').1
          rw [hn] at hn'
          exact hf (Option.some.inj hn' ▸ hf')
        rw [if_neg hf, if_neg hne]
    rw [hentry, Service.cancelled_land, Function.update_apply]
    by_cases hm : m = n
    · subst hm
      simp
    · rw [if_neg hm, ← h.inFlight]
      split
      next hf => simp [hf, Ne.symm hm]
      next => rfl
  lt m hm := by
    rw [Service.cancelled_land, Function.update_apply] at hm
    rw [Service.nextRequest_land]
    rcases hm with hc | hg
    · exact h.lt m (.inl hc)
    · split at hg
      next => contradiction
      next => exact h.lt m (.inr hg)

end Register

end Coselect.Selection
