import Coselect.Proofs.Selection.Register
import Coselect.Proofs.Selection.Traffic

/-! What the events of a service tell about its requests. A request that goes on was superseded
exactly if an event behind its beginning supersedes what is in flight for its root; when its
analysis comes to a graph, the request answers none in just this case. -/

namespace Coselect.Selection

open Coselect.Graph

theorem concat_eq_append_cons {α : Type} {l before after : List α} {a b : α}
    (h : l ++ [a] = before ++ b :: after) :
    (l = before ∧ a = b ∧ after = []) ∨
      ∃ after', after = after' ++ [a] ∧ l = before ++ b :: after' := by
  rcases List.eq_nil_or_concat after with rfl | ⟨after', c, rfl⟩
  · obtain ⟨rfl, hab⟩ := List.append_inj' h rfl
    exact .inl ⟨rfl, List.head_eq_of_cons_eq hab, rfl⟩
  · rw [List.concat_eq_append, ← List.cons_append, ← List.append_assoc] at h
    obtain ⟨rfl, hac⟩ := List.append_inj' h rfl
    obtain rfl := List.head_eq_of_cons_eq hac
    exact .inr ⟨after', List.concat_eq_append, rfl⟩

namespace Traffic

variable {t t' : Traffic} {e : Event} {log : List Event} {root : String} {n : Nat}

/-- The roots for which requests go on. -/
def going (t : Traffic) (n : Nat) : Option String := (t.pending.get? n).map Pending.root

theorem going_insert {s : Service} {p : Pending} :
    going ⟨s, t.pending.insert n p⟩ = Function.update t.going n (some p.root) := by
  funext m
  simp only [going, Table.get?_insert, Function.update_apply, eq_comm (a := n)]
  split <;> rfl

theorem going_erase {s : Service} :
    going ⟨s, t.pending.erase n⟩ = Function.update t.going n none := by
  funext m
  simp only [going, Table.get?_erase, Function.update_apply]
  split <;> rfl

theorem going_of_get? {p : Pending} (h : t.pending.get? n = some p) : t.going n = some p.root := by
  simp [going, h]

namespace Move

theorem register (h : Register t.service t.going) (m : Move t e t') :
    Register t'.service t'.going := by
  cases m with
  | refuse => exact h
  | begin root _ caches _ hb _ => rw [going_insert]; exact (h.begin hb).2.2
  | @resume n p next rest caches hp _ _ =>
    rw [going_insert, ← going_of_get? hp, Function.update_eq_self]
    exact h
  | discard hp hd =>
    obtain ⟨-, hf, hc, hn, -⟩ := Service.accept_eq hd
    rw [going_erase]
    exact (h.land (going_of_get? hp)).congr hf (by simp [hc]) (by simp [hn])
  | accept task hp hd _ =>
    obtain ⟨-, hf, hc, hn, -⟩ := Service.accept_eq hd
    rw [going_erase]
    exact (h.land (going_of_get? hp)).congr hf (by simp [hc]) (by simp [hn])
  | fail hp => rw [going_erase]; exact h.land (going_of_get? hp)
  | withdraw root task _ => exact h.withdraw.congr rfl rfl rfl
  | work => exact h.congr rfl rfl rfl
  | collect => exact h.congr rfl rfl rfl

/-- A request goes on that did so before, or that begins. -/
theorem going_cases (h : Register t.service t.going) (m : Move t e t') (hn : t'.going n = some root) :
    t.going n = some root ∨
      e = .began root n ∧ n = t.service.nextRequest ∧ n ∉ t'.service.cancelled := by
  cases m with
  | @begin _ m _ _ root' _ caches _ hb _ =>
    obtain ⟨hm, hc, -⟩ := h.begin hb
    rw [going_insert, Function.update_apply] at hn
    split at hn
    next e =>
      subst e
      obtain rfl : Path.normalize root' = root := Option.some.inj hn
      exact .inr ⟨rfl, hm, hc⟩
    next => exact .inl hn
  | @resume m p next rest caches hp _ _ =>
    rw [going_insert, ← going_of_get? hp, Function.update_eq_self] at hn
    exact .inl hn
  | discard | accept | fail =>
    rw [going_erase, Function.update_apply] at hn
    split at hn
    next => contradiction
    next => exact .inl hn
  | refuse | withdraw | work | collect => exact .inl hn

/-- Of the requests that go on an event supersedes those for its root. -/
theorem mem_cancelled_iff (h : Register t.service t.going) (m : Move t e t')
    (hn : t.going n = some root) :
    n ∈ t'.service.cancelled ↔ n ∈ t.service.cancelled ∨ e.Supersedes root := by
  cases m with
  | begin root' _ caches _ hb _ =>
    obtain ⟨rfl, rfl⟩ := Prod.mk.injEq .. ▸ hb
    exact h.mem_cancelled_supersede hn
  | withdraw root' task _ => exact h.mem_cancelled_supersede hn
  | discard hp hd | accept task hp hd _ =>
    obtain ⟨-, -, hc, -⟩ := Service.accept_eq hd
    simp [hc, Event.Supersedes]
  | fail hp => simp [Event.Supersedes]
  | refuse | resume | work | collect => simp [Event.Supersedes]

theorem nextRequest_le (m : Move t e t') : t.service.nextRequest ≤ t'.service.nextRequest := by
  cases m with
  | begin root _ caches _ hb _ =>
    obtain ⟨rfl, rfl⟩ := Prod.mk.injEq .. ▸ hb
    simp
  | discard hp hd | accept task hp hd _ =>
    obtain ⟨-, -, -, hn, -⟩ := Service.accept_eq hd
    simp [hn]
  | fail hp => simp
  | withdraw => simp [Service.withdraw]
  | refuse | resume | work | collect => exact Nat.le_refl _

theorem began (h : Register t.service t.going) (m : Move t (.began root n) t') :
    n = t.service.nextRequest ∧ n < t'.service.nextRequest := by
  cases m with
  | begin root _ caches _ hb _ =>
    obtain ⟨hn, -, hr⟩ := h.begin hb
    exact ⟨hn, hr.lt n (.inr (by simp))⟩

theorem returned {answer : Option DependencyGraph} (m : Move t (.returned root n answer) t') :
    t.going n = some root ∧ t'.going n = none ∧ (answer = none ↔ n ∈ t.service.cancelled) := by
  cases m with
  | discard hp hd =>
    refine ⟨going_of_get? hp, ?_, ?_⟩
    · rw [going_erase, Function.update_self]
    · simpa using (Service.accept_eq hd).1
  | accept task hp hd _ =>
    refine ⟨going_of_get? hp, ?_, ?_⟩
    · rw [going_erase, Function.update_self]
    · simpa using (Service.accept_eq hd).1

end Move

/-- What the events so far tell about the requests. -/
structure History (log : List Event) (t : Traffic) : Prop where
  register : Register t.service t.going
  began_lt : ∀ root n, .began root n ∈ log → n < t.service.nextRequest
  superseded : ∀ root n before after, t.going n = some root →
    log = before ++ .began root n :: after →
    (n ∈ t.service.cancelled ↔ ∃ e ∈ after, e.Supersedes root)
  ended : ∀ root n answer, .returned root n answer ∈ log →
    t.going n = none ∧ n < t.service.nextRequest
  once : ∀ root n answer before after, log = before ++ .returned root n answer :: after →
    ∀ root' answer', .returned root' n answer' ∉ before
  answered : ∀ root n answer before between after,
    log = before ++ .began root n :: (between ++ .returned root n answer :: after) →
    (answer = none ↔ ∃ e ∈ between, e.Supersedes root)

theorem History.move (h : History log t) (m : Move t e t') : History (log ++ [e]) t' := by
  constructor
  case register => exact m.register h.register
  case began_lt =>
    intro root n hm
    rcases List.mem_append.1 hm with hm | hm
    · exact Nat.lt_of_lt_of_le (h.began_lt root n hm) m.nextRequest_le
    · obtain rfl := List.mem_singleton.1 hm
      exact (m.began h.register).2
  case superseded =>
    intro root n before after hn heq
    rcases m.going_cases h.register hn with hn₀ | ⟨rfl, rfl, hc⟩
    · rw [m.mem_cancelled_iff h.register hn₀]
      rcases concat_eq_append_cons heq with ⟨rfl, rfl, rfl⟩ | ⟨after', rfl, heq'⟩
      · -- a request that goes on does not begin again
        have hlt := h.register.lt n (.inr (by simp [hn₀]))
        exact absurd (m.began h.register).1 (by omega)
      · rw [h.superseded root n before after' hn₀ heq']
        simp [or_and_right, exists_or]
    · rcases concat_eq_append_cons heq with ⟨-, -, rfl⟩ | ⟨after', rfl, heq'⟩
      · simpa using hc
      · have hlt := h.began_lt root t.service.nextRequest (by simp [heq'])
        exact absurd hlt (Nat.lt_irrefl _)
  case ended =>
    intro root n answer hm
    rcases List.mem_append.1 hm with hm | hm
    · obtain ⟨hn, hlt⟩ := h.ended root n answer hm
      refine ⟨?_, Nat.lt_of_lt_of_le hlt m.nextRequest_le⟩
      by_contra hne
      obtain ⟨root', hn'⟩ := Option.ne_none_iff_exists'.1 hne
      rcases m.going_cases h.register hn' with hn₀ | ⟨-, rfl, -⟩
      · rw [hn] at hn₀
        contradiction
      · exact Nat.lt_irrefl _ hlt
    · obtain rfl := List.mem_singleton.1 hm
      obtain ⟨hn, hn', -⟩ := m.returned
      have hlt := h.register.lt n (.inr (by simp [hn]))
      exact ⟨hn', Nat.lt_of_lt_of_le hlt m.nextRequest_le⟩
  case once =>
    intro root n answer before after heq root' answer' hm
    rcases concat_eq_append_cons heq with ⟨rfl, rfl, rfl⟩ | ⟨after', rfl, heq'⟩
    · have hn := m.returned.1
      rw [(h.ended root' n answer' hm).1] at hn
      contradiction
    · exact h.once root n answer before after' heq' root' answer' hm
  case answered =>
    intro root n answer before between after heq
    rw [← List.cons_append, ← List.append_assoc] at heq
    rcases concat_eq_append_cons heq with ⟨heq', rfl, rfl⟩ | ⟨after', rfl, heq'⟩
    · obtain ⟨hn, -, ha⟩ := m.returned
      exact ha.trans (h.superseded root n before between hn heq')
    · rw [List.append_assoc, List.cons_append] at heq'
      exact h.answered root n answer before between after' heq'

/-- A request returns once. -/
theorem History.not_returned_twice (h : History log t) {answer answer' : Option DependencyGraph}
    {root' : String} {before after : List Event}
    (heq : log = before ++ .returned root n answer :: after) (hne : answer' ≠ answer) :
    .returned root' n answer' ∉ log := by
  intro hm
  rw [heq] at hm
  rcases List.mem_append.1 hm with hm | hm
  · exact h.once root n answer before after heq root' answer' hm
  rcases List.mem_cons.1 hm with he | hm
  · exact hne (Event.returned.inj he).2.2
  · obtain ⟨l, l', rfl⟩ := List.append_of_mem hm
    rw [← List.cons_append, ← List.append_assoc] at heq
    exact h.once root' n answer' _ l' heq root answer (by simp)

theorem history_opening {workspace : Analysis.Workspace} {config : Settings.Config} :
    History [] (opening workspace config) where
  register := by constructor <;> simp [opening, going]
  began_lt := by simp
  superseded := by simp
  ended := by simp
  once := by simp
  answered := by simp

end Traffic

end Coselect.Selection
