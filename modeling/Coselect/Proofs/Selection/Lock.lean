import Mathlib.Data.List.Nodup
import Coselect.Proofs.Table
import Coselect.Selection.LockTable

/-! One lock and the visits of its key. The visits that are not past the lock stand in its line in the
order of their numbers; at most one visit is past it, and one is when the lock is taken. Only the first
of the line is ever called. Everything that a visit can do at a lock keeps it so. -/

namespace Coselect.Selection

variable {l : Lock} {vs : List Visit} {v w : Visit} {n : Nat} {t : Ticket} {key : String}

/-- The numbers of the visits past the lock. -/
def insiders (vs : List Visit) : List Nat := (vs.filter (·.inside)).map (·.number)

/-- The numbers of the visits before the lock. -/
def outsiders (vs : List Visit) : List Nat := (vs.filter (!·.inside)).map (·.number)

theorem mem_insiders : n ∈ insiders vs ↔ ∃ v ∈ vs, v.inside = true ∧ v.number = n := by
  simp [insiders, and_assoc]

theorem mem_outsiders : n ∈ outsiders vs ↔ ∃ v ∈ vs, v.inside = false ∧ v.number = n := by
  simp [outsiders, and_assoc]

theorem filter_ne_self {ns : List Nat} (h : n ∉ ns) : ns.filter (· ≠ n) = ns :=
  List.filter_eq_self.2 fun m hm => by simpa using ne_of_mem_of_not_mem hm h

theorem insiders_concat (vs : List Visit) (v : Visit) :
    insiders (vs ++ [v]) = insiders vs ++ if v.inside then [v.number] else [] := by
  cases hv : v.inside <;> simp [insiders, hv]

theorem outsiders_concat (vs : List Visit) (v : Visit) :
    outsiders (vs ++ [v]) = outsiders vs ++ if v.inside then [] else [v.number] := by
  cases hv : v.inside <;> simp [outsiders, hv]

theorem of_mem_passed (hw : w ∈ passed vs v) :
    ∃ u ∈ vs, u.number = w.number ∧ u.key = w.key ∧ u.lock = w.lock := by
  obtain ⟨u, hu, rfl⟩ := List.mem_map.1 hw
  refine ⟨u, hu, ?_⟩
  split
  next he => exact he ▸ ⟨rfl, rfl, rfl⟩
  next => exact ⟨rfl, rfl, rfl⟩

theorem passed_of_notMem (h : v ∉ vs) : passed vs v = vs := by
  refine (List.map_congr_left fun w hw => if_neg fun he => h ?_).trans (List.map_id vs)
  rwa [← he]

theorem filter_passed (vs : List Visit) (v : Visit) (key : String) :
    (passed vs v).filter (·.key = key) = passed (vs.filter (·.key = key)) v := by
  rw [passed, List.filter_map, passed]
  refine congrArg _ (List.filter_congr fun w _ => ?_)
  by_cases he : w = v <;> simp [he]

/-- Visits with numbers of their own. -/
def Numbered (vs : List Visit) : Prop := vs.Pairwise (·.number < ·.number)

namespace Numbered

theorem eq_of_number (h : Numbered vs) (hv : v ∈ vs) (hw : w ∈ vs) (hn : w.number = v.number) :
    w = v := by
  have hnodup : (vs.map (·.number)).Nodup := List.pairwise_map.2 (h.imp Nat.ne_of_lt)
  exact List.inj_on_of_nodup_map hnodup hw hv hn

theorem nodup (h : Numbered vs) : vs.Nodup := h.imp fun hlt he => by simp [he] at hlt

theorem filter_erase (h : Numbered vs) (v : Visit) (p : Visit → Bool) :
    (vs.erase v).filter p = (vs.filter p).erase v := by
  rw [h.nodup.erase_eq_filter, (h.nodup.filter p).erase_eq_filter, List.filter_filter,
    List.filter_filter]
  exact List.filter_congr fun w _ => Bool.and_comm ..

theorem map_filter_erase (h : Numbered vs) (hv : v ∈ vs) (p : Visit → Bool) :
    ((vs.erase v).filter p).map (·.number) =
      ((vs.filter p).map (·.number)).filter (· ≠ v.number) := by
  rw [h.nodup.erase_eq_filter, List.filter_map, List.filter_filter, List.filter_filter]
  congr 1
  refine List.filter_congr fun w hw => ?_
  by_cases he : w = v
  · simp [he]
  · have hne : w.number ≠ v.number := fun hn => he (h.eq_of_number hv hw hn)
    simp [he, hne]

theorem pass (h : Numbered vs) (v : Visit) : Numbered (passed vs v) := by
  refine List.pairwise_map.2 (h.imp fun {w u} hlt => ?_)
  by_cases hw : w = v <;> by_cases hu : u = v <;> simp_all

theorem notMem_map_filter (h : Numbered vs) (hv : v ∈ vs) {p : Visit → Bool} (hp : p v = false) :
    v.number ∉ (vs.filter p).map (·.number) := fun hmem => by
  obtain ⟨w, hw, hnumber⟩ := List.mem_map.1 hmem
  obtain ⟨hw, hpw⟩ := List.mem_filter.1 hw
  rw [h.eq_of_number hv hw hnumber, hp] at hpw
  cases hpw

theorem notMem_insiders (h : Numbered vs) (hv : v ∈ vs) (hin : v.inside = false) :
    v.number ∉ insiders vs := h.notMem_map_filter hv hin

theorem notMem_outsiders (h : Numbered vs) (hv : v ∈ vs) (hin : v.inside = true) :
    v.number ∉ outsiders vs := h.notMem_map_filter hv (by simp [hin])

theorem insiders_erase (h : Numbered vs) (hv : v ∈ vs) :
    insiders (vs.erase v) = (insiders vs).filter (· ≠ v.number) := h.map_filter_erase hv _

theorem outsiders_erase (h : Numbered vs) (hv : v ∈ vs) :
    outsiders (vs.erase v) = (outsiders vs).filter (· ≠ v.number) := h.map_filter_erase hv _

theorem outsiders_passed (h : Numbered vs) (hv : v ∈ vs) :
    outsiders (passed vs v) = (outsiders vs).filter (· ≠ v.number) := by
  rw [outsiders, outsiders, passed, List.filter_map, List.map_map, List.filter_map, List.filter_filter]
  refine congrArg₂ List.map (funext fun w => ?_) (List.filter_congr fun w hw => ?_)
  · by_cases he : w = v <;> simp [he]
  · by_cases he : w = v
    · simp [he]
    · have hne : w.number ≠ v.number := fun hn => he (h.eq_of_number hv hw hn)
      simp [he, hne]

theorem insiders_passed (h : Numbered vs) (hv : v ∈ vs) (hnone : insiders vs = []) :
    insiders (passed vs v) = [v.number] := by
  have honly :
      vs.filter ((·.inside) ∘ fun w => if w = v then { v with inside := true } else w) = [v] := by
    have hout : ∀ w ∈ vs, w.inside = false := by simpa [insiders] using hnone
    have hself : vs.filter (· == v) = [v] := by
      rw [List.filter_beq, List.count_eq_one_of_mem h.nodup hv, List.replicate_one]
    rw [← hself]
    refine List.filter_congr fun w hw => ?_
    by_cases he : w = v <;> simp [he, hout w hw]
  rw [insiders, passed, List.filter_map, honly]
  simp

end Numbered

/-! ### The lock -/

namespace Ticket

theorem not_wanted_cancel (t : Ticket) : t.cancel.wanted = false := by cases t <;> rfl

end Ticket

namespace Lock

/-- Those in the line who still want the lock. -/
def wanted (l : Lock) : List Nat := (l.line.filter (·.2.wanted)).map Prod.fst

theorem mem_wanted : n ∈ l.wanted ↔ ∃ t, (n, t) ∈ l.line ∧ t.wanted = true := by
  simp [wanted]

@[simp] theorem line_callFirst_map (l : Lock) :
    l.callFirst.line.map Prod.fst = l.line.map Prod.fst := by
  unfold callFirst
  split
  next h => simp [h]
  next => rfl

@[simp] theorem tail_line_callFirst (l : Lock) : l.callFirst.line.tail = l.line.tail := by
  unfold callFirst
  split
  next h => simp [h]
  next => rfl

@[simp] theorem taken_callFirst (l : Lock) : l.callFirst.taken = l.taken := by
  unfold callFirst
  split <;> rfl

theorem head_callFirst {p : Nat × Ticket} (h : p ∈ l.callFirst.line.head?) : p.2 ≠ .waiting := by
  unfold callFirst at h
  split at h
  next =>
    obtain rfl := by simpa using h
    simp
  next hne =>
    rintro ht
    cases hline : l.line with
    | nil => simp [hline] at h
    | cons q line =>
      obtain rfl : q = p := by simpa [hline] using h
      exact hne q.1 line (by rw [hline, ← ht])

@[simp] theorem wanted_callFirst (l : Lock) : l.callFirst.wanted = l.wanted := by
  unfold callFirst
  split
  next h => simp [wanted, h, Ticket.wanted]
  next => rfl

theorem wanted_drop (l : Lock) (n : Nat) : (l.drop n).wanted = l.wanted.filter (· ≠ n) := by
  simp only [wanted, drop, List.filter_map, List.filter_filter]
  congr 2
  funext p
  simp [Bool.and_comm]

theorem wanted_join (l : Lock) (n : Nat) : (l.join n).wanted = l.wanted ++ [n] := by
  simp [wanted, join, Ticket.wanted]

theorem wanted_of_isFree (h : l.isFree = true) : l.wanted = [] := by
  have hall : ∀ p ∈ l.line, p.2 = Ticket.cancelled := by simpa using (Bool.and_eq_true_iff.1 h).2
  rw [wanted, List.filter_eq_nil_iff.2, List.map_nil]
  intro p hp
  simp [hall p hp, Ticket.wanted]

theorem wanted_cancel (l : Lock) (n : Nat) : (l.cancel n).wanted = l.wanted.filter (· ≠ n) := by
  unfold wanted cancel
  induction l.line with
  | nil => rfl
  | cons p line ih =>
    by_cases hp : p.1 = n
    · simp_all [List.filter_cons, Ticket.not_wanted_cancel, apply_ite]
    · simp_all [List.filter_cons, apply_ite]

/-- A lock stands as the visits of its key need it. Only the first of its line can have been called, and
it has been unless it was cancelled or the lock is taken. -/
structure Serves (l : Lock) (vs : List Visit) : Prop where
  line : l.line.map Prod.fst = outsiders vs
  taken : (insiders vs).length = l.taken.toNat
  behind : ∀ p ∈ l.line.tail, p.2 = .waiting ∨ p.2 = .cancelled
  held : l.taken = true → ∀ p ∈ l.line, p.2 = .waiting ∨ p.2 = .cancelled
  ready : l.taken = false → ∀ p ∈ l.line.head?, p.2 ≠ .waiting

theorem serves_nil : ({} : Lock).Serves [] := ⟨rfl, rfl, nofun, nofun, nofun⟩

/-- A lock that is not taken stands right after the first of its line was called. -/
theorem serves_callFirst (hline : l.line.map Prod.fst = outsiders vs) (hnone : insiders vs = [])
    (hfree : l.taken = false) (hbehind : ∀ p ∈ l.line.tail, p.2 = .waiting ∨ p.2 = .cancelled) :
    l.callFirst.Serves vs where
  line := by rw [line_callFirst_map, hline]
  taken := by rw [taken_callFirst, hnone, hfree]; rfl
  behind := by rwa [tail_line_callFirst]
  held h := by rw [taken_callFirst, hfree] at h; cases h
  ready _ _ := head_callFirst

theorem tail_drop_subset (l : Lock) (n : Nat) : (l.drop n).line.tail ⊆ l.line.tail := by
  unfold drop
  cases l.line with
  | nil => simp
  | cons p line =>
    rw [List.filter_cons]
    split
    · exact List.filter_subset_self _
    · exact fun q hq => List.mem_of_mem_filter (List.mem_of_mem_tail hq)

namespace Serves

theorem mem_line (h : l.Serves vs) (hmem : (n, t) ∈ l.line) :
    ∃ v ∈ vs, v.inside = false ∧ v.number = n := by
  rw [← mem_outsiders, ← h.line]
  exact List.mem_map_of_mem hmem

theorem insiders_eq_nil (h : l.Serves vs) (hfree : l.taken = false) : insiders vs = [] := by
  rw [← List.length_eq_zero_iff, h.taken, hfree]
  rfl

theorem taken_of_inside (h : l.Serves vs) (hv : v ∈ vs) (hin : v.inside = true) : l.taken = true := by
  by_contra hfree
  have hmem := mem_insiders.2 ⟨v, hv, hin, rfl⟩
  rw [h.insiders_eq_nil (by simpa using hfree)] at hmem
  cases hmem

/-- At most one visit is past the lock. -/
theorem insiders_eq_singleton (h : l.Serves vs) (hv : v ∈ vs) (hin : v.inside = true) :
    insiders vs = [v.number] := by
  have hone : (insiders vs).length = 1 := by rw [h.taken, h.taken_of_inside hv hin]; rfl
  obtain ⟨m, hm⟩ := List.length_eq_one_iff.1 hone
  have hmem := mem_insiders.2 ⟨v, hv, hin, rfl⟩
  rw [hm, List.mem_singleton] at hmem
  rw [hm, hmem]

/-- One who was called is the first of the line of a lock that is not taken. -/
theorem line_of_called (h : l.Serves vs) (hmem : (n, t) ∈ l.line) (hwaiting : t ≠ .waiting)
    (hcancelled : t ≠ .cancelled) : l.taken = false ∧ ∃ line, l.line = (n, t) :: line := by
  have hno : ¬ (t = .waiting ∨ t = .cancelled) := not_or.2 ⟨hwaiting, hcancelled⟩
  refine ⟨by_contra fun ht => hno (h.held (by simpa using ht) _ hmem), ?_⟩
  cases hline : l.line with
  | nil => simp [hline] at hmem
  | cons p line =>
    rw [hline] at hmem
    rcases List.mem_cons.1 hmem with rfl | hbehind
    · exact ⟨line, rfl⟩
    · exact absurd (h.behind _ (by rwa [hline])) hno

/-- A new visit gets past a free lock. -/
theorem letIn (h : l.Serves vs) (hfree : l.isFree = true) (hin : v.inside = true) :
    ({ l with taken := true } : Lock).Serves (vs ++ [v]) := by
  obtain ⟨htaken, hall⟩ := Bool.and_eq_true_iff.1 hfree
  have hall : ∀ p ∈ l.line, p.2 = Ticket.cancelled := by simpa using hall
  exact {
    line := by simpa [outsiders_concat, hin] using h.line
    taken := by simp [insiders_concat, hin, h.insiders_eq_nil (by simpa using htaken)]
    behind := fun p hp => .inr (hall p (List.mem_of_mem_tail hp))
    held := fun _ p hp => .inr (hall p hp)
    ready := nofun }

/-- A new visit waits before a lock that is not free. -/
theorem join (h : l.Serves vs) (hfree : l.isFree = false) (hin : v.inside = false) :
    (l.join v.number).Serves (vs ++ [v]) where
  line := by simp [Lock.join, outsiders_concat, hin, h.line]
  taken := by simpa [Lock.join, insiders_concat, hin] using h.taken
  behind p hp := by
    have hbehind := h.behind
    cases hline : l.line with
    | nil => simp [Lock.join, hline] at hp
    | cons q line =>
      have hp : p ∈ line ∨ p = (v.number, .waiting) := by simpa [Lock.join, hline] using hp
      rcases hp with hp | rfl
      · exact hbehind p (by rwa [hline])
      · exact .inl rfl
  held ht p hp := by
    have hp : p ∈ l.line ∨ p = (v.number, .waiting) := by simpa [Lock.join] using hp
    rcases hp with hp | rfl
    · exact h.held ht p hp
    · exact .inl rfl
  ready ht p hp := by
    cases hline : l.line with
    | nil => simp [isFree, hline, show l.taken = false from ht] at hfree
    | cons q line =>
      refine h.ready ht p ?_
      simpa [Lock.join, hline] using hp

/-- One who was called takes the lock. -/
theorem take (h : l.Serves vs) (hvs : Numbered vs) (hv : v ∈ vs) (hmem : (v.number, .called) ∈ l.line) :
    (l.take v.number).Serves (passed vs v) := by
  obtain ⟨hfree, line, hline⟩ := h.line_of_called hmem (by decide) (by decide)
  have hnumbers : (l.take v.number).line.map Prod.fst = outsiders (passed vs v) := by
    rw [hvs.outsiders_passed hv, ← h.line, Lock.take, Lock.drop, List.filter_map]
    rfl
  -- the line without its first place
  have hrest : ∀ p ∈ (l.take v.number).line, p ∈ l.line.tail := by
    intro p hp
    obtain ⟨hp, hne⟩ := List.mem_filter.1 hp
    rw [hline] at hp ⊢
    exact (List.mem_cons.1 hp).resolve_left fun he => by simp [he] at hne
  exact {
    line := hnumbers
    taken := by rw [hvs.insiders_passed hv (h.insiders_eq_nil hfree)]; rfl
    behind := fun p hp => h.behind p (hrest p (List.mem_of_mem_tail hp))
    held := fun _ p hp => h.behind p (hrest p hp)
    ready := nofun }

/-- One who was cancelled leaves the line. -/
theorem giveUp (h : l.Serves vs) (hvs : Numbered vs) (hv : v ∈ vs) (hin : v.inside = false) :
    (l.giveUp v.number).Serves (vs.erase v) := by
  have hline : (l.drop v.number).line.map Prod.fst = outsiders (vs.erase v) := by
    rw [hvs.outsiders_erase hv, ← h.line, Lock.drop, List.filter_map]
    rfl
  have hinsiders : insiders (vs.erase v) = insiders vs := by
    rw [hvs.insiders_erase hv, filter_ne_self (hvs.notMem_insiders hv hin)]
  have hbehind : ∀ p ∈ (l.drop v.number).line.tail, p.2 = .waiting ∨ p.2 = .cancelled :=
    fun p hp => h.behind p (l.tail_drop_subset _ hp)
  unfold Lock.giveUp
  split
  next ht => exact {
    line := hline
    taken := by rw [hinsiders]; exact h.taken
    behind := hbehind
    held := fun _ p hp => h.held ht p (List.mem_of_mem_filter hp)
    ready := fun hfree => Bool.noConfusion (ht.symm.trans hfree) }
  next ht =>
    have hfree : l.taken = false := by simpa using ht
    exact serves_callFirst hline (by rw [hinsiders, h.insiders_eq_nil hfree]) hfree hbehind

/-- The visit past the lock leaves. -/
theorem release (h : l.Serves vs) (hvs : Numbered vs) (hv : v ∈ vs) (hin : v.inside = true) :
    l.release.Serves (vs.erase v) := by
  have hout : outsiders (vs.erase v) = outsiders vs := by
    rw [hvs.outsiders_erase hv, filter_ne_self (hvs.notMem_outsiders hv hin)]
  have hnone : insiders (vs.erase v) = [] := by
    rw [hvs.insiders_erase hv, h.insiders_eq_singleton hv hin]
    simp
  exact serves_callFirst (h.line.trans hout.symm) hnone rfl h.behind

/-- Who waits can be cancelled. -/
theorem cancel (h : l.Serves vs) (n : Nat) : (l.cancel n).Serves vs := by
  have hquiet : ∀ t : Ticket, t = .waiting ∨ t = .cancelled →
      t.cancel = .waiting ∨ t.cancel = .cancelled :=
    fun t ht => .inr (by rcases ht with rfl | rfl <;> rfl)
  have hready : ∀ t : Ticket, t ≠ .waiting → t.cancel ≠ .waiting := fun t ht => by
    cases t <;> simp_all [Ticket.cancel]
  have hticket : ∀ {P : Ticket → Prop} (p : Nat × Ticket), (∀ t, P t → P t.cancel) → P p.2 →
      P (if p.1 = n then (n, p.2.cancel) else p).2 := fun p hcancel hp => by
    split
    · exact hcancel _ hp
    · exact hp
  refine ⟨?_, h.taken, fun q hq => ?_, fun ht q hq => ?_, fun ht q hq => ?_⟩
  · rw [← h.line, Lock.cancel, List.map_map]
    exact List.map_congr_left fun p _ => by by_cases hp : p.1 = n <;> simp [hp]
  · rw [Lock.cancel, ← List.map_tail] at hq
    obtain ⟨p, hp, rfl⟩ := List.mem_map.1 hq
    exact hticket p hquiet (h.behind p hp)
  · obtain ⟨p, hp, rfl⟩ := List.mem_map.1 hq
    exact hticket p hquiet (h.held ht p hp)
  · rw [Lock.cancel, List.head?_map] at hq
    obtain ⟨p, hp, rfl⟩ := Option.map_eq_some_iff.1 hq
    exact hticket p hready (h.ready ht p hp)

theorem wanted_subset (h : l.Serves vs) : l.wanted ⊆ outsiders vs := by
  rw [← h.line, Lock.wanted]
  exact List.map_subset _ (List.filter_subset_self _)

theorem wanted_pairwise (h : l.Serves vs) (hvs : Numbered vs) : l.wanted.Pairwise (· < ·) := by
  have hout : (outsiders vs).Pairwise (· < ·) := by
    rw [outsiders, List.pairwise_map]
    exact hvs.filter _
  rw [← h.line] at hout
  exact hout.sublist (List.filter_sublist.map _)

theorem ticket?_eq_some_iff (h : l.Serves vs) (hvs : Numbered vs) :
    l.ticket? n = some t ↔ (n, t) ∈ l.line := by
  refine Table.lookup_eq_some_iff ?_
  rw [h.line]
  exact (List.pairwise_map.2 (hvs.filter _)).imp Nat.ne_of_lt

theorem wanted_take (h : l.Serves vs) (hvs : Numbered vs) (hmem : (n, .called) ∈ l.line) :
    l.wanted = n :: (l.take n).wanted := by
  obtain ⟨-, line, hline⟩ := h.line_of_called hmem (by decide) (by decide)
  have hcons : l.wanted = n :: (line.filter (·.2.wanted)).map Prod.fst := by
    simp [Lock.wanted, hline, Ticket.wanted]
  have hnot := (List.pairwise_cons.1 (hcons ▸ h.wanted_pairwise hvs)).1
  have htake : (l.take n).wanted = l.wanted.filter (· ≠ n) := wanted_drop l n
  rw [htake, hcons, List.filter_cons_of_neg (by simp),
    filter_ne_self fun hin => Nat.lt_irrefl n (hnot n hin)]

theorem notMem_wanted (h : l.Serves vs) (hvs : Numbered vs) (ht : l.ticket? n = some t)
    (hno : t.wanted = false) : n ∉ l.wanted := fun hmem => by
  obtain ⟨t', hline, hwanted⟩ := mem_wanted.1 hmem
  rw [(h.ticket?_eq_some_iff hvs).2 hline] at ht
  rw [Option.some.inj ht, hno] at hwanted
  cases hwanted

end Serves

theorem wanted_giveUp (l : Lock) (n : Nat) : (l.giveUp n).wanted = l.wanted.filter (· ≠ n) := by
  unfold giveUp
  split
  · exact wanted_drop l n
  · rw [wanted_callFirst, wanted_drop]

theorem wanted_release (l : Lock) : l.release.wanted = l.wanted := wanted_callFirst _

end Lock

end Coselect.Selection
