import Coselect.Proofs.Selection.Requests
import Coselect.Proofs.Selection.Selecting

/-! Requests that fail. Without such a request a service goes through the same events less its
own, where the later requests have the numbers one below theirs, and comes to the same selection:
failing changes nothing that a request does by succeeding. Beginning does, though. The request
in flight for the same root is superseded there, and answers none whatever becomes of the one
that superseded it. -/

namespace Coselect.Selection

open Analysis Coselect.Graph

/-- The number of a request when the one with number `n` is left out. -/
def closeGap (n k : Nat) : Nat := if n < k then k - 1 else k

theorem closeGap_inj {n j k : Nat} (hj : j ≠ n) (hk : k ≠ n) :
    closeGap n j = closeGap n k ↔ j = k := by
  unfold closeGap
  split <;> split <;> omega

def Event.renumber (number : Nat → Nat) : Event → Event
  | began root n => began root (number n)
  | resumed n => resumed (number n)
  | returned root n answer => returned root (number n) answer
  | failed root n => failed root (number n)
  | e => e

/-- Whether an event is the end of a request. -/
def Event.EndOf (n : Nat) : Event → Prop
  | returned _ m _ | failed _ m => m = n
  | _ => False

theorem Event.supersedes_renumber {number : Nat → Nat} {e : Event} {root : String} :
    (e.renumber number).Supersedes root ↔ e.Supersedes root := by
  cases e <;> rfl

/-- Whether a request is `n` or the one it superseded. -/
def leftOut (n : Nat) (superseded : Option Nat) (k : Nat) : Bool := k == n || superseded == some k

theorem leftOut_eq_false {n k : Nat} {superseded : Option Nat} :
    leftOut n superseded k = false ↔ k ≠ n ∧ superseded ≠ some k := by
  simp [leftOut]

/-- The events behind the beginning of request `n`, less its own and those of the request it
superseded. -/
def spared (n : Nat) (superseded : Option Nat) (log : List Event) : List Event :=
  (log.filter fun e => !e.request?.any (leftOut n superseded)).map (Event.renumber (closeGap n))

theorem spared_append {n : Nat} {superseded : Option Nat} {log : List Event} {e : Event} :
    spared n superseded (log ++ [e]) = spared n superseded log ++
      if e.request?.any (leftOut n superseded) then [] else [e.renumber (closeGap n)] := by
  simp only [spared, List.filter_append, List.map_append, List.filter_singleton]
  cases e.request?.any (leftOut n superseded) <;> rfl

namespace Service

variable {s s' : Service} {root : String} {n : Nat}

theorem settings_supersede :
    (s.supersede root).workspace = s.workspace ∧ (s.supersede root).config = s.config := by
  unfold supersede
  split <;> exact ⟨rfl, rfl⟩

theorem settings_begin (h : s.begin root = (n, s')) :
    s'.workspace = s.workspace ∧ s'.config = s.config ∧ s'.nextRequest = s.nextRequest + 1 := by
  obtain ⟨-, rfl⟩ := Prod.mk.injEq .. ▸ h
  exact ⟨settings_supersede.1, settings_supersede.2, by simp⟩

theorem settings_land :
    (s.land root n).workspace = s.workspace ∧ (s.land root n).config = s.config := by
  unfold land
  split <;> exact ⟨rfl, rfl⟩

theorem settings_accept {accepted : Bool} (h : s.accept root n = (accepted, s')) :
    s'.workspace = s.workspace ∧ s'.config = s.config := by
  unfold accept at h
  simp only [cancelled_land] at h
  split at h
  all_goals
    obtain ⟨-, rfl⟩ := Prod.mk.injEq .. ▸ h
    exact settings_land

theorem subset_cancelled_supersede : s.cancelled ⊆ (s.supersede root).cancelled := by
  unfold supersede
  split
  next => exact List.subset_cons_self _ _
  next => exact List.Subset.refl _

end Service

namespace Traffic

variable {t t' u u' v : Traffic} {e : Event} {log : List Event} {root : String} {n k : Nat}
  {superseded : Option Nat}

theorem signals_congr {s s' : Service} (h : k ∈ s'.cancelled ↔ n ∈ s.cancelled) :
    Signals s' k = Signals s n := by
  funext x
  simp [Signals, Service.signal, h]

namespace Move

theorem settings (m : Move t e t') :
    t'.service.workspace = t.service.workspace ∧ t'.service.config = t.service.config := by
  cases m with
  | begin root _ caches _ hb _ =>
    obtain ⟨hw, hc, -⟩ := Service.settings_begin hb
    exact ⟨hw, hc⟩
  | discard hp hd => exact Service.settings_accept hd
  | accept task hp hd _ =>
    have hs := Service.settings_accept hd
    exact hs
  | fail => exact Service.settings_land
  | withdraw => exact Service.settings_supersede
  | refuse | resume | work | collect => exact ⟨rfl, rfl⟩

theorem subset_cancelled (m : Move t e t') : t.service.cancelled ⊆ t'.service.cancelled := by
  cases m with
  | begin root _ caches _ hb _ =>
    obtain ⟨rfl, rfl⟩ := Prod.mk.injEq .. ▸ hb
    exact Service.subset_cancelled_supersede
  | discard hp hd | accept task hp hd _ => simp [(Service.accept_eq hd).2.2.1]
  | fail => simp
  | withdraw => exact Service.subset_cancelled_supersede
  | refuse | resume | work | collect => exact List.Subset.refl _

/-- A request with a disabled configuration changes nothing. -/
theorem refused (m : Move t (.refused root) t') : t' = t := by
  cases m
  rfl

end Move

theorem Move.going_of_endOf (m : Move t e u) (he : e.EndOf n) :
    (t.going n).isSome ∧ u.going n = none := by
  cases m with
  | discard hp | accept task hp | fail hp =>
    cases he
    exact ⟨by simp [going_of_get? hp], by rw [going_erase, Function.update_self]⟩
  | refuse | begin | resume | withdraw | work | collect => contradiction

namespace Runs

theorem append {log' : List Event} (run : Runs t log u) (run' : Runs u log' v) :
    Runs t (log ++ log') v := by
  induction run' with
  | refl => simpa using run
  | tail _ m ih => simpa using ih.tail m

theorem head (m : Move t e u) (run : Runs u log v) : Runs t (e :: log) v :=
  append (.tail (.refl t) m) run

theorem register (run : Runs t log u) (h : Register t.service t.going) :
    Register u.service u.going := by
  induction run with
  | refl => exact h
  | tail _ m ih => exact m.register ih

/-- A request that came to its end does not go on. -/
theorem going_of_endOf (run : Runs t log u) (h : Register t.service t.going) (he : e ∈ log)
    (hn : e.EndOf n) : u.going n = none ∧ n < u.service.nextRequest := by
  induction run with
  | refl => contradiction
  | @tail log u d v run m ih =>
    have hu := run.register h
    rcases List.mem_append.1 he with he | he
    · obtain ⟨hg, hlt⟩ := ih he
      refine ⟨?_, Nat.lt_of_lt_of_le hlt m.nextRequest_le⟩
      by_contra hne
      obtain ⟨root, hroot⟩ := Option.ne_none_iff_exists'.1 hne
      rcases m.going_cases hu hroot with hroot | ⟨-, hnew, -⟩
      · exact absurd (hg.symm.trans hroot) (by simp)
      · omega
    · obtain rfl := List.mem_singleton.1 he
      obtain ⟨hg, hg'⟩ := m.going_of_endOf hn
      exact ⟨hg', Nat.lt_of_lt_of_le (hu.lt n (.inr hg)) m.nextRequest_le⟩

/-- A request comes to its end once. -/
theorem end_unique (run : Runs t log u) (h : Register t.service t.going) {d : Event} (he : e ∈ log)
    (hn : e.EndOf n) (hd : d ∈ log) (hn' : d.EndOf n) : e = d := by
  induction run with
  | refl => contradiction
  | @tail log u c v run m ih =>
    have hlast : ∀ e ∈ log, e.EndOf n → ¬ c.EndOf n := by
      intro e he hn hc
      have hg := (m.going_of_endOf hc).1
      simp [(run.going_of_endOf h he hn).1] at hg
    rcases List.mem_append.1 he with he | he <;> rcases List.mem_append.1 hd with hd | hd
    · exact ih he hd
    · exact absurd (List.mem_singleton.1 hd ▸ hn') (hlast e he hn)
    · exact absurd (List.mem_singleton.1 he ▸ hn) (hlast d hd hn')
    · rw [List.mem_singleton.1 he, List.mem_singleton.1 hd]

theorem subset_cancelled (run : Runs t log u) : t.service.cancelled ⊆ u.service.cancelled := by
  induction run with
  | refl => exact List.Subset.refl _
  | tail _ m ih => exact fun _ hn => m.subset_cancelled (ih hn)

/-- A request that is superseded answers none. -/
theorem answers_none (run : Runs t log u) (hn : n ∈ t.service.cancelled)
    {answer : Option DependencyGraph} (he : .returned root n answer ∈ log) : answer = none := by
  induction run with
  | refl => contradiction
  | tail run m ih =>
    rcases List.mem_append.1 he with he | he
    · exact ih he
    · obtain rfl := List.mem_singleton.1 he
      exact m.returned.2.2.2 (run.subset_cancelled hn)

end Runs

/-- A service, and the same one without request `n` and without what became of the request that
`n` superseded. -/
structure Spared (n : Nat) (superseded : Option Nat) (t t' : Traffic) : Prop where
  register : Register t.service t.going
  register' : Register t'.service t'.going
  settings : t'.service.workspace = t.service.workspace ∧ t'.service.config = t.service.config
  selection : t'.service.manualRoots = t.service.manualRoots ∧
    t'.service.orchestrator = t.service.orchestrator
  next : t.service.nextRequest = t'.service.nextRequest + 1
  lt : n < t.service.nextRequest
  mem_cancelled : ∀ m, superseded = some m → m ∈ t.service.cancelled
  pending : ∀ k, leftOut n superseded k = false →
    t'.pending.get? (closeGap n k) = t.pending.get? k
  cancelled : ∀ k root, leftOut n superseded k = false → t.going k = some root →
    (closeGap n k ∈ t'.service.cancelled ↔ k ∈ t.service.cancelled)

/-- Leaving a request out begins when it does. -/
theorem spared_began (h : Register t.service t.going) (m : Move t (.began root n) t') :
    Spared n (t.service.inFlight.get? root) t' t where
  register := m.register h
  register' := h
  settings := ⟨m.settings.1.symm, m.settings.2.symm⟩
  selection :=
    have hm := m.untouched rfl rfl
    ⟨hm.1.symm, hm.2.symm⟩
  next := by
    cases m with
    | begin root _ caches _ hb _ =>
      obtain ⟨rfl, rfl⟩ := Prod.mk.injEq .. ▸ hb
      simp
  lt := (m.began h).2
  mem_cancelled v hv :=
    have hv := (h.inFlight root v).1 hv
    (m.mem_cancelled_iff h hv.1).2 (.inr rfl)
  pending k hk := by
    obtain ⟨hn, -⟩ := m.began h
    obtain ⟨hkn, -⟩ := leftOut_eq_false.1 hk
    have hnew : t'.pending.get? k = t.pending.get? k := by
      cases m with
      | begin root _ caches _ _ _ => rw [Table.get?_insert, if_neg (Ne.symm hkn)]
    have hnone : ∀ j, t.service.nextRequest ≤ j → t.pending.get? j = none := by
      intro j hj
      by_contra hne
      have hlt := h.lt j (.inr (by simpa [going, Option.isSome_iff_ne_none] using hne))
      omega
    unfold closeGap
    split
    next hlt => rw [hnew, hnone k (by omega), hnone (k - 1) (by omega)]
    next => rw [hnew]
  cancelled k root' hk hg := by
    obtain ⟨hkn, hv⟩ := leftOut_eq_false.1 hk
    rcases m.going_cases h hg with hg | ⟨he, -, -⟩
    · have hlt := h.lt k (.inr (by simp [hg]))
      have hkn' : closeGap n k = k := if_neg (by have := (m.began h).1; omega)
      rw [hkn', m.mem_cancelled_iff h hg, or_iff_left_of_imp]
      rintro rfl
      -- of the requests for this root only the one in flight is not superseded yet
      by_contra hc
      exact hv ((h.inFlight root k).2 ⟨hg, hc⟩)
    · exact absurd (Event.began.inj he).2.symm hkn

namespace Spared

theorem going (h : Spared n superseded t t') (hk : leftOut n superseded k = false) :
    t'.going (closeGap n k) = t.going k := by
  simp only [Traffic.going, h.pending k hk]

/-- Both services did the same: what is left to see is their numbers and their requests. -/
theorem of_moves (h : Spared n superseded t t') (m : Move t e u)
    (m' : Move t' (e.renumber (closeGap n)) u')
    (hselection : u'.service.manualRoots = u.service.manualRoots ∧
      u'.service.orchestrator = u.service.orchestrator)
    (hnext : u.service.nextRequest = u'.service.nextRequest + 1)
    (hpending : ∀ k, leftOut n superseded k = false →
      u'.pending.get? (closeGap n k) = u.pending.get? k) :
    Spared n superseded u u' where
  register := m.register h.register
  register' := m'.register h.register'
  settings := by simp only [m.settings, m'.settings, h.settings, and_self]
  selection := hselection
  next := hnext
  lt := Nat.lt_of_lt_of_le h.lt m.nextRequest_le
  mem_cancelled k hk := m.subset_cancelled (h.mem_cancelled k hk)
  pending := hpending
  cancelled k root hk hg := by
    rcases m.going_cases h.register hg with hg₀ | ⟨rfl, -, hc⟩
    · have hg₀' : t'.going (closeGap n k) = some root := by rw [h.going hk, hg₀]
      rw [m.mem_cancelled_iff h.register hg₀, m'.mem_cancelled_iff h.register' hg₀',
        h.cancelled k root hk hg₀, Event.supersedes_renumber]
    · have hg' : u'.going (closeGap n k) = some root := by
        simp only [Traffic.going, hpending k hk] at hg ⊢
        exact hg
      rcases m'.going_cases h.register' hg' with hg₀' | ⟨-, -, hc'⟩
      · rw [h.going hk] at hg₀'
        have hlt := h.register.lt k (.inr (by simp [hg₀']))
        exact absurd (m.began h.register).1 (by omega)
      · exact iff_of_false hc' hc

theorem get?_insert (h : Spared n superseded t t') {j : Nat} (hj : leftOut n superseded j = false)
    {p : Pending} (hk : leftOut n superseded k = false) :
    (t'.pending.insert (closeGap n j) p).get? (closeGap n k) = (t.pending.insert j p).get? k := by
  simp only [Table.get?_insert, h.pending k hk,
    closeGap_inj (leftOut_eq_false.1 hj).1 (leftOut_eq_false.1 hk).1]

theorem get?_erase (h : Spared n superseded t t') {j : Nat} (hj : leftOut n superseded j = false)
    (hk : leftOut n superseded k = false) :
    (t'.pending.erase (closeGap n j)).get? (closeGap n k) = (t.pending.erase j).get? k := by
  simp only [Table.get?_erase, h.pending k hk,
    closeGap_inj (leftOut_eq_false.1 hk).1 (leftOut_eq_false.1 hj).1]

theorem configFor (h : Spared n superseded t t') : t'.service.configFor = t.service.configFor := by
  funext config
  simp only [Service.configFor, h.settings]

/-- Both services begin the same request, without `n` under the number below. -/
theorem begin {s : Service} (h : Spared n superseded t t') (hb : t.service.begin root = (k, s)) :
    ∃ s', t'.service.begin root = (closeGap n k, s') ∧ s'.workspace = s.workspace ∧
      s.nextRequest = s'.nextRequest + 1 ∧ Signals s' (closeGap n k) = Signals s k := by
  rcases hb' : t'.service.begin root with ⟨k', s'⟩
  obtain ⟨hk, hcancelled, -⟩ := h.register.begin hb
  obtain ⟨hk', hcancelled', -⟩ := h.register'.begin hb'
  obtain rfl : k' = closeGap n k := by
    have hlt := h.lt
    have hnext := h.next
    unfold closeGap
    split <;> omega
  obtain ⟨hw, -, hn⟩ := Service.settings_begin hb
  obtain ⟨hw', -, hn'⟩ := Service.settings_begin hb'
  refine ⟨s', rfl, ?_, ?_, signals_congr (iff_of_false hcancelled' hcancelled)⟩
  · rw [hw, hw', h.settings.1]
  · rw [hn, hn', h.next]

/-- Both services accept the graph of a request or neither does. -/
theorem accept {s : Service} {accepted : Bool} (h : Spared n superseded t t')
    (hk : leftOut n superseded k = false) (hg : t.going k = some root)
    (ha : t.service.accept root k = (accepted, s)) :
    ∃ s', t'.service.accept root (closeGap n k) = (accepted, s') ∧
      s'.manualRoots = s.manualRoots ∧ s'.orchestrator = s.orchestrator ∧
      s.nextRequest = s'.nextRequest + 1 := by
  rcases ha' : t'.service.accept root (closeGap n k) with ⟨accepted', s'⟩
  obtain ⟨hc, -, -, hn, ho, hm⟩ := Service.accept_eq ha
  obtain ⟨hc', -, -, hn', ho', hm'⟩ := Service.accept_eq ha'
  rw [h.cancelled k root hk hg, ← hc] at hc'
  obtain rfl : accepted' = accepted := Bool.eq_iff_iff.2 hc'
  refine ⟨s', rfl, ?_, ?_, ?_⟩
  · rw [hm, hm', h.selection.1]
  · rw [ho, ho', h.selection.2]
  · rw [hn, hn', h.next]

/-- What another request does, it does without request `n` as well. -/
theorem move (h : Spared n superseded t t') (m : Move t e u)
    (he : e.request?.any (leftOut n superseded) = false) :
    ∃ u', Move t' (e.renumber (closeGap n)) u' ∧ Spared n superseded u u' := by
  obtain ⟨hm, ho⟩ := h.selection
  cases m with
  | refuse root config hf => exact ⟨t', .refuse root config (h.configFor ▸ hf), h⟩
  | @begin c k service rest root config caches hcfg hb hrest =>
    have hk : leftOut n superseded k = false := he
    have m : Move t _ _ := .begin root config caches hcfg hb hrest
    obtain ⟨service', hb', hw, hnext, hsignals⟩ := h.begin hb
    have hrest' : Inquiry.Proceeds (Signals service' (closeGap n k))
        (service'.analysis (Path.normalize root) c).run caches rest := by
      rw [hsignals]
      simpa only [Service.analysis, hw] using hrest
    have m' := Move.begin root config caches (h.configFor ▸ hcfg) hb' hrest'
    obtain ⟨hm₁, ho₁⟩ := m.untouched rfl rfl
    obtain ⟨hm₁', ho₁'⟩ := m'.untouched rfl rfl
    refine ⟨_, m', h.of_moves m m' ⟨?_, ?_⟩ hnext fun j hj => h.get?_insert hk hj⟩
    · rw [hm₁, hm₁', hm]
    · rw [ho₁, ho₁', ho]
  | @resume k p next rest caches hp hnext hrest =>
    have hk : leftOut n superseded k = false := he
    have hsignals : Signals t'.service (closeGap n k) = Signals t.service k :=
      signals_congr (h.cancelled k p.root hk (going_of_get? hp))
    have m' := Move.resume caches ((h.pending k hk).trans hp) hnext (hsignals ▸ hrest)
    exact ⟨_, m', h.of_moves (.resume caches hp hnext hrest) m' h.selection h.next
      fun j hj => h.get?_insert hk hj⟩
  | @discard k root g service hp hd =>
    have hk : leftOut n superseded k = false := he
    obtain ⟨service', hd', hm₁, ho₁, hnext⟩ := h.accept hk (going_of_get? hp) hd
    have m' := Move.discard ((h.pending k hk).trans hp) hd'
    exact ⟨_, m', h.of_moves (.discard hp hd) m' ⟨hm₁, ho₁⟩ hnext fun j hj => h.get?_erase hk hj⟩
  | @accept k root g service orchestrator task hp hd he' =>
    have hk : leftOut n superseded k = false := he
    obtain ⟨service', hd', hm₁, ho₁, hnext⟩ := h.accept hk (going_of_get? hp) hd
    have m' := Move.accept task ((h.pending k hk).trans hp) hd' (ho₁ ▸ he')
    exact ⟨_, m', h.of_moves (.accept task hp hd he') m' ⟨hm₁, rfl⟩ hnext
      fun j hj => h.get?_erase hk hj⟩
  | @fail k p hp =>
    have hk : leftOut n superseded k = false := he
    have m' := Move.fail ((h.pending k hk).trans hp)
    refine ⟨_, m', h.of_moves (.fail hp) m' ⟨?_, ?_⟩ ?_ fun j hj => h.get?_erase hk hj⟩
    · simpa using hm
    · simpa using ho
    · simpa using h.next
  | withdraw root task he' =>
    have m' := Move.withdraw root task (t := t') (ho ▸ he')
    refine ⟨_, m', h.of_moves (.withdraw root task he') m' ⟨?_, rfl⟩ ?_ h.pending⟩
    · simp only [Service.withdraw, Service.manualRoots_supersede, hm]
    · simpa [Service.withdraw] using h.next
  | work task hs =>
    have m' := Move.work task (t := t') (ho ▸ hs)
    exact ⟨_, m', h.of_moves (.work task hs) m' ⟨hm, rfl⟩ h.next h.pending⟩
  | collect task hcall hf =>
    have m' := Move.collect task (t := t') (ho ▸ hcall) hf
    exact ⟨_, m', h.of_moves (.collect task hcall hf) m' ⟨hm, by rw [ho]⟩ h.next h.pending⟩

/-- What the requests left out do changes nothing, as long as no graph of theirs is applied. -/
theorem skip (h : Spared n superseded t t') (m : Move t e u) (hk : e.request? = some k)
    (hout : leftOut n superseded k = true) (he : e.call? = none) : Spared n superseded u t' := by
  have hlt : k < t.service.nextRequest := by
    rcases Bool.or_eq_true_iff.1 hout with hn | hv
    · exact (beq_iff_eq.1 hn) ▸ h.lt
    · exact h.register.lt k (.inl (h.mem_cancelled k (beq_iff_eq.1 hv)))
  have hgoing : ∀ j root, u.going j = some root → t.going j = some root := by
    intro j root hj
    rcases m.going_cases h.register hj with hj | ⟨rfl, hnew, -⟩
    · exact hj
    · cases hk
      omega
  have hnext : u.service.nextRequest = t.service.nextRequest ∧
      (∀ j, j ≠ k → u.pending.get? j = t.pending.get? j) ∧ ∀ root, ¬ e.Supersedes root := by
    cases m with
    | begin root _ caches _ hb _ =>
      cases hk
      exact absurd (h.register.begin hb).1 (by omega)
    | resume caches hp _ _ =>
      cases hk
      exact ⟨rfl, fun j hj => by rw [Table.get?_insert, if_neg (Ne.symm hj)], fun _ => not_false⟩
    | discard hp hd =>
      cases hk
      exact ⟨(Service.accept_eq hd).2.2.2.1, fun j hj => by rw [Table.get?_erase, if_neg hj],
        fun _ => not_false⟩
    | accept => simp [Event.call?] at he
    | fail hp =>
      cases hk
      exact ⟨by simp, fun j hj => by rw [Table.get?_erase, if_neg hj], fun _ => not_false⟩
    | refuse | withdraw | work | collect => contradiction
  obtain ⟨hm, ho⟩ := m.untouched hk he
  exact {
    register := m.register h.register
    register' := h.register'
    settings := by simp only [m.settings, h.settings, and_self]
    selection := ⟨h.selection.1.trans hm.symm, h.selection.2.trans ho.symm⟩
    next := hnext.1.trans h.next
    lt := Nat.lt_of_lt_of_le h.lt m.nextRequest_le
    mem_cancelled := fun j hj => m.subset_cancelled (h.mem_cancelled j hj)
    pending := fun j hj => by
      have hne : j ≠ k := by
        rintro rfl
        exact absurd hout (by simp [hj])
      rw [h.pending j hj, hnext.2.1 j hne]
    cancelled := fun j root hj hg => by
      have hg := hgoing j root hg
      rw [h.cancelled j root hj hg, m.mem_cancelled_iff h.register hg, or_iff_left (hnext.2.2 root)] }

/-- A whole run. -/
theorem runs (h : Spared n superseded t t') (run : Runs t log u)
    (hfail : ∀ e ∈ log, e.request? = some n → e.call? = none) :
    ∃ u', Runs t' (spared n superseded log) u' ∧ Spared n superseded u u' := by
  induction run with
  | refl => exact ⟨t', .refl t', h⟩
  | @tail log u e v run m ih =>
    obtain ⟨u', run', hu⟩ := ih fun e he => hfail e (List.mem_append_left _ he)
    rw [spared_append]
    cases hout : e.request?.any (leftOut n superseded) with
    | false =>
      obtain ⟨v', m', hv⟩ := hu.move m hout
      exact ⟨v', run'.tail m', hv⟩
    | true =>
      obtain ⟨k, hk, hout⟩ := (Option.any_eq_true ..).1 hout
      have he : e.call? = none := by
        rcases Bool.or_eq_true_iff.1 hout with hn | hv
        · exact hfail e (by simp) (hk.trans (congrArg some (beq_iff_eq.1 hn)))
        · cases hcall : e.call? with
          | none => rfl
          | some call =>
            -- what was superseded is not applied
            obtain ⟨root, g, rfl⟩ := eq_returned_of_call? hk hcall
            cases hk
            exact absurd (m.returned.2.2.2 (hu.mem_cancelled k (beq_iff_eq.1 hv))) (by simp)
      exact ⟨u', by simpa using run', hu.skip m hk hout he⟩

end Spared

/-- A request with a disabled configuration changes nothing, and one that fails after it began
leaves everything as it would be without it, whatever else goes on: the roots that count as
selected, the orchestrator, and what the other requests do and answer, other than the one for the
same root that was in flight when it began. That one answers none. -/
theorem failed_spares_others {workspace : Workspace} {config : Settings.Config}
    {before after : List Event} {t₀ t₁ : Traffic} {root' : String}
    (run₀ : Runs (opening workspace config) before t₀) (began : Move t₀ (.began root n) t₁)
    (run : Runs t₁ after t) (hfailed : .failed root' n ∈ after) :
    (∃ t', Runs (opening workspace config)
        (before ++ spared n (t₀.service.inFlight.get? root) after) t' ∧
      t'.service.manualRoots = t.service.manualRoots ∧
      t'.service.orchestrator = t.service.orchestrator ∧
      ∀ k, leftOut n (t₀.service.inFlight.get? root) k = false →
        t'.pending.get? (closeGap n k) = t.pending.get? k) ∧
    (∀ m answer, t₀.service.inFlight.get? root = some m → .returned root m answer ∈ after →
      answer = none) ∧
    ∀ s s' r, Move s (.refused r) s' → s' = s := by
  have hregister := (kept_opening.runs run₀).history.register
  have hspared := spared_began hregister began
  have hfail : ∀ e ∈ after, e.request? = some n → e.call? = none := by
    intro e he hn
    by_contra hcall
    obtain ⟨call, hcall⟩ := Option.ne_none_iff_exists'.1 hcall
    obtain ⟨root'', g, rfl⟩ := eq_returned_of_call? hn hcall
    exact absurd (run.end_unique hspared.register he rfl hfailed rfl) (by simp)
  obtain ⟨t', run', h⟩ := hspared.runs run hfail
  refine ⟨⟨t', run₀.append run', h.selection.1, h.selection.2, h.pending⟩, ?_, ?_⟩
  · intro m answer hm hanswer
    exact run.answers_none (hspared.mem_cancelled m hm) hanswer
  · intro s s' r m
    exact m.refused

/-- A configuration whose depth is out of range. -/
def tooDeep : Settings.Config := { quick with maxDepth := .int 77 }

/-- Of two requests that go on, a failing one supersedes that for its root and spares the other. -/
theorem failed_spares_others_two_requests : ∃ t₀ t₁ t g t',
    Runs (opening (.ofRoot "/") quick) [.began "/a" 0, .began "/c" 1] t₀ ∧
    Move t₀ (.began "/a" 2) t₁ ∧
    Runs t₁ [.failed "/a" 2, .resumed 0, .returned "/a" 0 none, .resumed 1,
      .returned "/c" 1 (some g)] t ∧
    Runs (opening (.ofRoot "/") quick) [.began "/a" 0, .began "/c" 1, .resumed 1,
      .returned "/c" 1 (some g)] t' ∧
    t'.service.manualRoots = t.service.manualRoots ∧
    t'.service.orchestrator = t.service.orchestrator := by
  obtain ⟨t₀, run₀, t₁, began, hflight, g, t, run⟩ : ∃ t₀,
      Runs (opening (.ofRoot "/") quick) [.began "/a" 0, .began "/c" 1] t₀ ∧
      ∃ t₁, Move t₀ (.began "/a" 2) t₁ ∧ t₀.service.inFlight.get? "/a" = some 0 ∧
      ∃ g t, Runs t₁ [.failed "/a" 2, .resumed 0, .returned "/a" 0 none, .resumed 1,
        .returned "/c" 1 (some g)] t := by
    have run₀ := Runs.refl (opening (.ofRoot "/") quick)
      |>.tail (.begin "/a" none aliasFree rfl rfl (proceeds_settle ..))
      |>.tail (.begin "/c" none aliasFree rfl rfl (proceeds_settle ..))
    refine ⟨_, run₀, _, .begin "/a" (some tooDeep) aliasFree rfl rfl (proceeds_settle ..), rfl, ?_⟩
    constructor
    constructor
    apply Runs.head (.fail (n := 2) (p := ⟨"/a", _⟩) rfl)
    apply Runs.head (.resume (n := 0) aliasFree rfl (.pause _) (proceeds_settle ..))
    apply Runs.head (.discard (n := 0) rfl rfl)
    apply Runs.head (.resume (n := 1) aliasFree rfl (.pause _) (proceeds_settle ..))
    exact .head (.accept (n := 1) 7 rfl rfl rfl) (.refl _)
  obtain ⟨⟨t', run', hm, ho, -⟩, -⟩ := failed_spares_others run₀ began run (.head _)
  rw [hflight] at run'
  exact ⟨t₀, t₁, t, g, t', run₀, began, run, run', hm, ho⟩

end Traffic

namespace Site

open Traffic

/-- A root that imports one file. -/
def withImport : Site where
  service.workspace := .ofRoot "/"
  service.config := { quick with sourceExtensions := .strings [".ts"] }
  caches := .ofSize 8
  disk.tree := .directory [("a.ts", .file (.text "import './b'") 0), ("b.ts", .file (.text "") 0)]

/-- A request that fails takes the answer from the one before it: its configuration is looked at
after that one is superseded. -/
theorem failed_takes_answer : ¬ ∀ root config bad a a' f,
    (withImport.together [.select root config]).1 = [a] →
    (withImport.together [.select root config, .select root bad]).1 = [a', .error f] → a' = a := by
  intro h
  have hone : (withImport.together [.select "/a.ts" none]).1.map
      (fun a => (update? a).map (·.added)) = [some ["/b.ts"]] := by decide +kernel
  have htwo : (withImport.together [.select "/a.ts" none, .select "/a.ts" (some tooDeep)]).1.map
      (fun a => (a.isOk, (update? a).map (·.added))) = [(true, none), (false, none)] := by
    decide +kernel
  obtain ⟨a, ha, hadded⟩ := List.map_eq_singleton_iff.1 hone
  obtain ⟨a', l, ha', ha'', hl⟩ := List.map_eq_cons_iff.1 htwo
  obtain ⟨bad, rfl, hbad⟩ := List.map_eq_singleton_iff.1 hl
  match bad, hbad with
  | .error f, _ =>
    rw [h "/a.ts" none (some tooDeep) a a' f ha ha', hadded] at ha''
    simp at ha''

end Site

end Coselect.Selection
