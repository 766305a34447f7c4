import Coselect.Proofs.Selection.KeyedLock
import Coselect.Proofs.Selection.LockSteps

/-! Runs of the tasks that visit keys. An act lets the first of those inside who still want to be there,
or nobody, and changes who wants to be at a key as it changes the queue of the key. So whoever got inside
came before all who still want to, whatever the tasks do and in whichever order. -/

namespace Coselect.Selection

variable {v w : Visit} {n : Nat} {key : String}

namespace LockTable

variable {s s' : LockTable} {act : Act} {t : Ticket}

/-- What an act does to the table, as far as it matters to those at a key: who gets inside was the first
there, and the queues that are told of the act still stand as the table does. -/
structure Advances (s : LockTable) (act : Act) (got : Option (String × Nat)) (s' : LockTable) : Prop where
  sound : Sound s'
  requests : s.requests ≤ s'.requests
  queue : ∀ queues : KeyedLock, (∀ key, queues.queue key = s.hopefuls key) →
    ∀ key, (s.report queues act).queue key = s'.hopefuls key
  inside : ∀ v ∈ s'.visits, v.inside = true → v ∈ s.visits ∨ got = some (v.key, v.number)
  wanted : ∀ key, ∀ n ∈ s'.wanted key, n ∈ s.wanted key ∨ n = s.requests
  got : ∀ key n, got = some (key, n) →
    n < s'.requests ∧ (n ∈ s.wanted key ∨ n = s.requests) ∧ ∀ m ∈ s'.wanted key, n < m

namespace Advances

/-- An act that does nothing. -/
theorem nothing (h : Sound s) (hidle : s.Idle act) : Advances s act none s where
  sound := h
  requests := Nat.le_refl _
  queue queues hqueues key := by rw [report_of_idle hidle, hqueues]
  inside v hv _ := .inl hv
  wanted key n hn := .inl hn
  got := nofun

/-- A step of a visit by which nobody gets inside. -/
theorem of_quiet (hs' : Sound s') (hsame : SameBut v.key s s')
    (hqueue : ∀ queues : KeyedLock, (∀ key, queues.queue key = s.hopefuls key) →
      ∀ key, (s.report queues act).queue key = if key = v.key then s'.hopefuls key else queues.queue key)
    (hinside : ∀ w ∈ s'.visits, w ∈ s.visits) (hwanted : s'.wanted v.key ⊆ s.wanted v.key) :
    Advances s act none s' where
  sound := hs'
  requests := hsame.requests
  queue queues hqueues key := by
    rw [hqueue queues hqueues key]
    split
    next => rfl
    next hk => rw [hqueues key, hsame.hopefuls hk]
  inside w hw _ := .inl (hinside w hw)
  wanted key n hn := by
    by_cases hk : key = v.key
    · subst hk
      exact .inl (hwanted hn)
    · rw [hsame.wanted hk] at hn
      exact .inl hn
  got := nofun

end Advances

namespace Sound

theorem advances_request (h : Sound s) (key : String) : Advances s (.request key)
    (if (s.lockFor key).2.isFree then some (key, s.requests) else none) (s.request key) where
  sound := h.sound_request key
  requests := Nat.le_succ _
  queue queues hqueues key' := by
    rw [report, KeyedLock.queue_request]
    split
    next hk => rw [hk, hqueues, hopefuls_request]
    next hk => rw [hqueues, (h.sameBut_request key).hopefuls hk]
  inside v hv hin := by
    rw [visits_request] at hv
    rcases List.mem_append.1 hv with hv | hv
    · exact .inl hv
    · obtain rfl := List.mem_singleton.1 hv
      exact .inr (if_pos hin)
  wanted key' n hn := by
    by_cases hk : key' = key
    · subst hk
      rw [wanted_request] at hn
      split at hn
      · cases hn
      · simpa using hn
    · rw [(h.sameBut_request key).wanted hk] at hn
      exact .inl hn
  got key' n hgot := by
    split at hgot
    next hfree =>
      obtain ⟨rfl, rfl⟩ := Prod.mk.inj (Option.some.inj hgot)
      refine ⟨Nat.lt_succ_self _, .inr rfl, fun m hm => ?_⟩
      rw [wanted_request, if_pos hfree] at hm
      cases hm
    next => cases hgot

theorem wanted_enter (h : Sound s) (hv : v ∈ s.visits)
    (hcalled : (v.number, .called) ∈ (s.lock v.lock).line) :
    s.wanted v.key = v.number :: (s.enter v).wanted v.key := by
  have henter : (s.enter v).wanted v.key = ((s.lock v.lock).take v.number).wanted := by
    have hlockOf : (s.enter v).lockOf.get? v.key = some v.lock := h.lockOf_eq hv
    rw [wanted, hlockOf, Option.map_some, Option.getD_some]
    exact congrArg Lock.wanted ((lock_setLock s v.lock v.lock _).trans (if_pos rfl))
  rw [h.wanted_eq hv, henter, (h.fits_of_mem hv).serves.wanted_take (h.among_numbered _) hcalled]

theorem hopefuls_enter (h : Sound s) (hv : v ∈ s.visits)
    (hcalled : (v.number, .called) ∈ (s.lock v.lock).line) (key : String) :
    (s.enter v).hopefuls key = s.hopefuls key := by
  by_cases hk : key = v.key
  · subst hk
    have hserves := (h.fits_of_mem hv).serves
    have hnone : insiders (s.among v.key) = [] :=
      hserves.insiders_eq_nil (hserves.line_of_called hcalled (by decide) (by decide)).1
    rw [hopefuls, hopefuls, among_enter, h.wanted_enter hv hcalled, hnone,
      (h.among_numbered _).insiders_passed (mem_among.2 ⟨hv, rfl⟩) hnone]
    rfl
  · exact (h.sameBut_enter hv).hopefuls hk

theorem advances_enter (h : Sound s) (hv : v ∈ s.visits)
    (hcalled : (v.number, .called) ∈ (s.lock v.lock).line) :
    Advances s (.goOn v.number) (some (v.key, v.number)) (s.enter v) where
  sound := h.sound_enter hv hcalled
  requests := Nat.le_refl _
  queue queues hqueues key := by rw [h.hopefuls_enter hv hcalled, ← hqueues key, report]
  inside w hw _ := by
    obtain ⟨u, hu, rfl⟩ := List.mem_map.1 hw
    by_cases he : u = v
    · rw [if_pos he]
      exact .inr rfl
    · rw [if_neg he]
      exact .inl hu
  wanted key n hn := by
    by_cases hk : key = v.key
    · subst hk
      rw [h.wanted_enter hv hcalled]
      exact .inl (List.mem_cons_of_mem _ hn)
    · rw [(h.sameBut_enter hv).wanted hk] at hn
      exact .inl hn
  got key n hgot := by
    obtain ⟨rfl, rfl⟩ := Prod.mk.inj (Option.some.inj hgot)
    have hpairwise := (h.fits_of_mem hv).serves.wanted_pairwise (h.among_numbered _)
    rw [← h.wanted_eq hv, h.wanted_enter hv hcalled, List.pairwise_cons] at hpairwise
    exact ⟨h.bound v hv, .inl (by simp [h.wanted_enter hv hcalled]), hpairwise.1⟩

theorem wanted_cancel (h : Sound s) (hv : v ∈ s.visits) :
    (s.setLock v.lock ((s.lock v.lock).cancel n)).wanted v.key = (s.wanted v.key).filter (· ≠ n) := by
  have hlockOf : (s.setLock v.lock ((s.lock v.lock).cancel n)).lockOf.get? v.key = some v.lock :=
    h.lockOf_eq hv
  rw [wanted, hlockOf, Option.map_some, Option.getD_some, lock_setLock, if_pos rfl, Lock.wanted_cancel,
    h.wanted_eq hv]

/-- Who is past the lock does not wait for it. -/
theorem notMem_wanted (h : Sound s) (hv : v ∈ s.visits) (hin : v.inside = true) :
    v.number ∉ s.wanted v.key := fun hmem => by
  rw [h.wanted_eq hv] at hmem
  exact (h.among_numbered v.key).notMem_outsiders (mem_among.2 ⟨hv, rfl⟩) hin
    ((h.fits_of_mem hv).serves.wanted_subset hmem)

theorem advances_cancel (h : Sound s) (hv : v ∈ s.visits) : Advances s (.cancel v.number) none
    (s.setLock v.lock ((s.lock v.lock).cancel v.number)) := by
  refine .of_quiet (h.sound_cancel hv) (h.sameBut_setLock hv _) (fun queues hqueues key => ?_)
    (fun w hw => hw) ?_
  · have hmem : v ∈ s.among v.key := mem_among.2 ⟨hv, rfl⟩
    rw [report, (h.visit?_eq_some_iff).2 ⟨hv, rfl⟩]
    dsimp only
    split
    next hin =>
      split
      next hk =>
        rw [hk, hqueues, hopefuls, hopefuls, h.wanted_cancel hv,
          filter_ne_self (h.notMem_wanted hv hin)]
        rfl
      next => rfl
    next hin =>
      have hin : v.inside = false := by simpa using hin
      have herase : (s.wanted v.key).erase v.number = (s.wanted v.key).filter (· ≠ v.number) := by
        have hpairwise := (h.fits_of_mem hv).serves.wanted_pairwise (h.among_numbered _)
        have hnodup : (s.lock v.lock).wanted.Nodup := hpairwise.imp Nat.ne_of_lt
        rw [h.wanted_eq hv, hnodup.erase_eq_filter]
        exact List.filter_congr fun m _ => by rw [Bool.eq_iff_iff]; simp
      rw [KeyedLock.queue_leave]
      split
      next hk =>
        rw [hk, hqueues, hopefuls, hopefuls, h.wanted_cancel hv,
          List.erase_append_right _ ((h.among_numbered _).notMem_insiders hmem hin), herase]
        rfl
      next => rfl
  · rw [h.wanted_cancel hv]
    exact List.filter_subset_self _

theorem advances_giveUp (h : Sound s) (hv : v ∈ s.visits)
    (ht : (s.lock v.lock).ticket? v.number = some t) (hno : t.wanted = false)
    (hdeparts : Departs s s' v ((s.lock v.lock).giveUp v.number)) :
    Advances s (.goOn v.number) none s' := by
  have hserves := (h.fits_of_mem hv).serves
  have hnumbered := h.among_numbered v.key
  have hmem : v ∈ s.among v.key := mem_among.2 ⟨hv, rfl⟩
  have hin := h.inside_eq_false hv ht
  have hafter := hserves.giveUp hnumbered hmem hin
  have hwanted : s'.wanted v.key = s.wanted v.key := by
    rw [hdeparts.wanted h hv hafter, Lock.wanted_giveUp,
      filter_ne_self (hserves.notMem_wanted hnumbered ht hno), h.wanted_eq hv]
  refine .of_quiet (hdeparts.sound h hv hafter) (hdeparts.sameBut h hv)
    (fun queues hqueues key => ?_) (fun w hw => ?_) ?_
  · rw [report]
    split
    next hk =>
      rw [hk, hqueues, hopefuls, hopefuls, hwanted, hdeparts.among h,
        hnumbered.insiders_erase hmem, filter_ne_self (hnumbered.notMem_insiders hmem hin)]
    next => rfl
  · exact List.mem_of_mem_erase (hdeparts.visits ▸ hw)
  · exact hwanted ▸ List.Subset.refl _

theorem advances_leave (h : Sound s) (hv : v ∈ s.visits) (hin : v.inside = true)
    (hdeparts : Departs s s' v (s.lock v.lock).release) : Advances s (.leave v.number) none s' := by
  have hserves := (h.fits_of_mem hv).serves
  have hnumbered := h.among_numbered v.key
  have hmem : v ∈ s.among v.key := mem_among.2 ⟨hv, rfl⟩
  have hafter := hserves.release hnumbered hmem hin
  have hwanted : s'.wanted v.key = s.wanted v.key := by
    rw [hdeparts.wanted h hv hafter, Lock.wanted_release, h.wanted_eq hv]
  refine .of_quiet (hdeparts.sound h hv hafter) (hdeparts.sameBut h hv)
    (fun queues hqueues key => ?_) (fun w hw => ?_) ?_
  · rw [report, (h.visit?_eq_some_iff).2 ⟨hv, rfl⟩]
    dsimp only
    rw [if_pos hin, KeyedLock.queue_leave]
    split
    next hk =>
      rw [hk, hqueues, hopefuls, hopefuls, hwanted, hdeparts.among h,
        hnumbered.insiders_erase hmem, hserves.insiders_eq_singleton hmem hin]
      simp
    next => rfl
  · exact List.mem_of_mem_erase (hdeparts.visits ▸ hw)
  · exact hwanted ▸ List.Subset.refl _

theorem advances (h : Sound s) {got : Option (String × Nat)} (hstep : Step s act got s') :
    Advances s act got s' := by
  cases hstep with
  | request key => exact h.advances_request key
  | enter hv ht =>
    exact h.advances_enter hv (((h.fits_of_mem hv).serves.ticket?_eq_some_iff (h.among_numbered _)).1 ht)
  | giveUp hv ht hno hdeparts => exact h.advances_giveUp hv ht hno hdeparts
  | cancel hv => exact h.advances_cancel hv
  | leave hv hin hdeparts => exact h.advances_leave hv hin hdeparts
  | nothing hidle => exact .nothing h hidle

end Sound

end LockTable

/-! ### Runs -/

namespace LockTable

theorem trim_report {s : LockTable} {queues : KeyedLock} (h : queues.Trim) (act : Act) :
    (s.report queues act).Trim := by
  cases act with
  | request key => exact h.setQueue _ _
  | goOn n => exact h
  | cancel n =>
    dsimp only [report]
    split
    · split
      · exact h
      · exact h.setQueue _ _
    · exact h
  | leave n =>
    dsimp only [report]
    split
    · split
      · exact h.setQueue _ _
      · exact h
    · exact h

end LockTable

namespace Traced

variable {t : Traced}

/-- What every act keeps. Those who got inside so far came before all who still want to. -/
structure Kept (t : Traced) : Prop where
  sound : t.table.Sound
  queue : ∀ key, t.queues.queue key = t.table.hopefuls key
  trim : t.queues.Trim
  order : t.entered.Pairwise fun e e' => e.1 = e'.1 → e.2 < e'.2
  past : ∀ e ∈ t.entered, e.2 < t.table.requests
  ahead : ∀ e ∈ t.entered, ∀ n ∈ t.table.wanted e.1, e.2 < n
  inside : ∀ v ∈ t.table.visits, v.inside = true → (v.key, v.number) ∈ t.entered

theorem Kept.empty : Kept {} where
  sound := .empty
  queue _ := rfl
  trim := nofun
  order := .nil
  past := nofun
  ahead := nofun
  inside := nofun

theorem Kept.advance (h : Kept t) (act : Act) : ∃ t', t.advance act = .ok t' ∧ Kept t' := by
  obtain ⟨got, s', hperform, hstep⟩ := h.sound.step act
  have hadvances := h.sound.advances hstep
  refine ⟨⟨s', t.entered ++ got.toList, t.table.report t.queues act⟩,
    by rw [Traced.advance, hperform]; rfl, ?_⟩
  have hgot : ∀ e ∈ got.toList, got = some (e.1, e.2) := fun e he => Option.mem_toList.1 he
  -- whoever gets inside was ahead of all who still want to
  have hnext : ∀ e ∈ t.entered, ∀ n,
      n ∈ t.table.wanted e.1 ∨ n = t.table.requests → e.2 < n := by
    rintro e he n (hn | rfl)
    · exact h.ahead e he n hn
    · exact h.past e he
  exact {
    sound := hadvances.sound
    queue := hadvances.queue t.queues h.queue
    trim := LockTable.trim_report h.trim act
    order := by
      refine List.pairwise_append.2 ⟨h.order, ?_, fun e he e' he' hkey => ?_⟩
      · cases got <;> simp
      · exact hnext e he e'.2 (hkey ▸ (hadvances.got e'.1 e'.2 (hgot e' he')).2.1)
    past := fun e he => by
      rcases List.mem_append.1 he with he | he
      · exact Nat.lt_of_lt_of_le (h.past e he) hadvances.requests
      · exact (hadvances.got e.1 e.2 (hgot e he)).1
    ahead := fun e he n hn => by
      rcases List.mem_append.1 he with he | he
      · exact hnext e he n (hadvances.wanted e.1 n hn)
      · exact (hadvances.got e.1 e.2 (hgot e he)).2.2 n hn
    inside := fun v hv hin => by
      rcases hadvances.inside v hv hin with hold | hnew
      · exact List.mem_append_left _ (h.inside v hold hin)
      · exact List.mem_append_right _ (by simp [hnew]) }

theorem run_concat (acts : List Act) (act : Act) :
    run (acts ++ [act]) = (run acts >>= fun t => t.advance act) := by
  simp only [run, List.foldlM_append, List.foldlM_cons, List.foldlM_nil, bind_pure]

theorem Kept.run (h : Kept t) (acts : List Act) :
    ∃ t', acts.foldlM Traced.advance t = .ok t' ∧ Kept t' := by
  induction acts generalizing t with
  | nil => exact ⟨t, rfl, h⟩
  | cons act acts ih =>
    obtain ⟨next, hnext, hkept⟩ := h.advance act
    obtain ⟨t', hrun, hkept'⟩ := ih hkept
    exact ⟨t', by rw [List.foldlM_cons, hnext]; exact hrun, hkept'⟩

/-- A visit has not given up: it is past the lock of its key or still wants it. -/
def Hopeful (t : Traced) (v : Visit) : Prop :=
  v.inside = true ∨
    ∃ ticket, (t.table.lock v.lock).ticket? v.number = some ticket ∧ ticket.wanted = true

/-- The locks as those see them who ask for their keys. -/
structure Orderly (t : Traced) : Prop where
  /-- At most one visit of a key is inside. -/
  alone : ∀ v ∈ t.table.visits, ∀ w ∈ t.table.visits, v.key = w.key → v.inside = true →
    w.inside = true → v = w
  /-- Visits share a lock exactly when they are of one key. -/
  one_lock : ∀ v ∈ t.table.visits, ∀ w ∈ t.table.visits, v.lock = w.lock ↔ v.key = w.key
  /-- A visit that is not inside has its place in the line of its lock. -/
  in_line : ∀ v ∈ t.table.visits, v.inside = false →
    ∃ ticket, (t.table.lock v.lock).ticket? v.number = some ticket
  /-- The visits of a key got inside in the order of their requests. -/
  in_order : t.entered.Pairwise fun e e' => e.1 = e'.1 → e.2 < e'.2
  entered : ∀ v ∈ t.table.visits, v.inside = true → (v.key, v.number) ∈ t.entered
  /-- Whoever is still there behind a later visit has given up. -/
  not_passed_over : ∀ v ∈ t.table.visits, ∀ w ∈ t.table.visits, v.key = w.key →
    v.number < w.number → w.inside = true → ¬ t.Hopeful v
  /-- Where nobody is inside, the first of the line can go on. -/
  awake : ∀ v ∈ t.table.visits, (∀ w ∈ t.table.visits, w.key = v.key → w.inside = false) →
    ∀ p ∈ (t.table.lock v.lock).line.head?, p.2 ≠ .waiting
  /-- A key has its entries exactly while it is visited. -/
  entry : ∀ key, (t.table.lockOf.contains key = true ↔ ∃ v ∈ t.table.visits, v.key = key) ∧
    (t.table.counts.contains key = true ↔ ∃ v ∈ t.table.visits, v.key = key)
  empty : t.table.visits = [] →
    t.table.lockOf.size = 0 ∧ t.table.counts.size = 0 ∧ t.queues.size = 0
  /-- The queue of a key lists those who have not given up, in the order of their requests. -/
  queued : ∀ key n, n ∈ t.queues.queue key ↔
    ∃ v ∈ t.table.visits, v.key = key ∧ v.number = n ∧ t.Hopeful v
  queue_order : ∀ key, (t.queues.queue key).Pairwise (· < ·)
  queue_entry : ∀ key, t.queues.queues.contains key = true ↔
    ∃ v ∈ t.table.visits, v.key = key ∧ t.Hopeful v
  /-- Whoever is inside holds its key in the queues. -/
  holds : ∀ v ∈ t.table.visits, v.inside = true → t.queues.holds v.key v.number = true

theorem Kept.mem_queue (h : Kept t) : n ∈ t.queues.queue key ↔
    ∃ v ∈ t.table.visits, v.key = key ∧ v.number = n ∧ t.Hopeful v := by
  rw [h.queue, LockTable.hopefuls, List.mem_append, mem_insiders, h.sound.mem_wanted]
  simp only [LockTable.mem_among, Hopeful]
  constructor
  · rintro (⟨v, ⟨hv, hkey⟩, hin, hn⟩ | ⟨v, hv, hkey, hn, hticket⟩)
    · exact ⟨v, hv, hkey, hn, .inl hin⟩
    · exact ⟨v, hv, hkey, hn, .inr hticket⟩
  · rintro ⟨v, hv, hkey, hn, hin | hticket⟩
    · exact .inl ⟨v, ⟨hv, hkey⟩, hin, hn⟩
    · exact .inr ⟨v, hv, hkey, hn, hticket⟩

theorem Kept.queue_pairwise (h : Kept t) (key : String) : (t.queues.queue key).Pairwise (· < ·) := by
  rw [h.queue, LockTable.hopefuls, List.pairwise_append]
  refine ⟨List.pairwise_map.2 ((h.sound.among_numbered key).filter _), ?_, fun m hm n hn => ?_⟩
  · unfold LockTable.wanted
    cases hlock : t.table.lockOf.get? key with
    | none => exact .nil
    | some k => exact (h.sound.fits key k hlock).serves.wanted_pairwise (h.sound.among_numbered key)
  · obtain ⟨v, hv, hin, rfl⟩ := mem_insiders.1 hm
    obtain ⟨hmem, rfl⟩ := LockTable.mem_among.1 hv
    exact h.ahead _ (h.inside v hmem hin) n hn

theorem Kept.holds (h : Kept t) (hv : v ∈ t.table.visits) (hin : v.inside = true) :
    t.queues.holds v.key v.number = true := by
  rw [KeyedLock.holds_iff, h.queue, LockTable.hopefuls,
    (h.sound.fits_of_mem hv).serves.insiders_eq_singleton (LockTable.mem_among.2 ⟨hv, rfl⟩) hin]
  exact ⟨_, rfl⟩

theorem Kept.orderly (h : Kept t) : Orderly t where
  alone v hv w hw := h.sound.alone hv hw
  one_lock v hv w hw := h.sound.lock_eq_iff hv hw
  in_line v hv := h.sound.exists_ticket hv
  in_order := h.order
  entered := h.inside
  not_passed_over v hv w hw hkey hlt hin := by
    rintro (hvin | hticket)
    · exact Nat.lt_irrefl _ (h.sound.alone hv hw hkey hvin hin ▸ hlt)
    · have hmem : v.number ∈ t.table.wanted w.key := h.sound.mem_wanted.2 ⟨v, hv, hkey, rfl, hticket⟩
      exact Nat.lt_asymm hlt (h.ahead _ (h.inside w hw hin) _ hmem)
  awake v hv := h.sound.awake hv
  entry := h.sound.contains_iff
  empty hnone := by
    have hqueue : ∀ key, ¬ t.queues.queues.contains key = true := fun key => by
      rw [h.trim.contains_iff]
      rintro ⟨n, hn⟩
      obtain ⟨v, hv, -⟩ := h.mem_queue.1 hn
      simp [hnone] at hv
    have hnot : ∀ key, ¬ ∃ v ∈ t.table.visits, v.key = key := by simp [hnone]
    exact ⟨Table.size_eq_zero_of fun key hin => hnot key ((h.sound.contains_iff key).1.1 hin),
      Table.size_eq_zero_of fun key hin => hnot key ((h.sound.contains_iff key).2.1 hin),
      Table.size_eq_zero_of hqueue⟩
  queued key n := h.mem_queue
  queue_entry key := by
    rw [h.trim.contains_iff]
    simp only [h.mem_queue]
    constructor
    · rintro ⟨-, v, hv, hkey, -, hhope⟩
      exact ⟨v, hv, hkey, hhope⟩
    · rintro ⟨v, hv, hkey, hhope⟩
      exact ⟨v.number, v, hv, hkey, rfl, hhope⟩
  queue_order := h.queue_pairwise
  holds v hv := h.holds hv

/-! ### What an act does to the visits -/

/-- What an act makes of the visits under way and of the list of those who got inside. -/
inductive Moves (t : Traced) : Act → Traced → Prop
  /-- A request adds its visit behind the others. It is inside at once where nobody is at its key, and only
  where nobody wants to be. -/
  | request {t' : Traced} (v : Visit) : v.number = t.table.requests →
      t'.table.visits = t.table.visits ++ [v] →
      t'.entered = t.entered ++ (if v.inside then [(v.key, v.number)] else []) →
      ((∀ w ∈ t.table.visits, w.key ≠ v.key) → v.inside = true) →
      (v.inside = true → t.queues.queue v.key = []) → Moves t (.request v.key) t'
  /-- One who was called gets inside. -/
  | enter {t' : Traced} {v : Visit} : v ∈ t.table.visits →
      (t.table.lock v.lock).ticket? v.number = some .called →
      t'.table.visits = passed t.table.visits v → t'.entered = t.entered ++ [(v.key, v.number)] →
      Moves t (.goOn v.number) t'
  /-- The visit of one who gave up ends when its task goes on. -/
  | giveUp {t' : Traced} {v : Visit} : v ∈ t.table.visits → ¬ t.Hopeful v →
      t'.table.visits = t.table.visits.erase v → t'.entered = t.entered → Moves t (.goOn v.number) t'
  /-- Who is inside and leaves ends its visit. -/
  | leave {t' : Traced} {v : Visit} : v ∈ t.table.visits → v.inside = true →
      t'.table.visits = t.table.visits.erase v → t'.entered = t.entered → Moves t (.leave v.number) t'
  /-- Who is cancelled before the lock has given up, and its visit goes on until its task does. -/
  | cancel {t' : Traced} {v : Visit} : v ∈ t.table.visits → t'.table.visits = t.table.visits →
      t'.entered = t.entered → (v.inside = false → ¬ t'.Hopeful v) → Moves t (.cancel v.number) t'
  | nothing {act : Act} : t.table.Idle act → Moves t act t

theorem Kept.not_hopeful (h : Kept t) {ticket : Ticket} (hv : v ∈ t.table.visits)
    (ht : (t.table.lock v.lock).ticket? v.number = some ticket) (hno : ticket.wanted = false) :
    ¬ t.Hopeful v := by
  rintro (hin | ⟨ticket', ht', hwanted⟩)
  · rw [h.sound.inside_eq_false hv ht] at hin
    cases hin
  · rw [ht] at ht'
    rw [← Option.some.inj ht', hno] at hwanted
    cases hwanted

theorem Kept.moves (h : Kept t) (act : Act) : ∃ t', t.advance act = .ok t' ∧ Moves t act t' := by
  obtain ⟨got, s', hperform, hstep⟩ := h.sound.step act
  have hadvance : t.advance act =
      .ok ⟨s', t.entered ++ got.toList, t.table.report t.queues act⟩ := by
    rw [Traced.advance, hperform]
    rfl
  refine ⟨_, hadvance, ?_⟩
  have hsame : t.entered ++ Option.toList none = t.entered := List.append_nil _
  cases hstep with
  | request key =>
    refine .request (t.table.newVisit key) rfl (t.table.visits_request key)
      (congrArg (t.entered ++ ·) (apply_ite Option.toList ..)) h.sound.isFree_lockFor fun hfree => ?_
    exact (h.queue key).trans (h.sound.hopefuls_of_isFree hfree)
  | enter hv ht => exact .enter hv ht rfl rfl
  | giveUp hv ht hno hdeparts => exact .giveUp hv (h.not_hopeful hv ht hno) hdeparts.visits hsame
  | cancel hv =>
    refine .cancel hv rfl hsame ?_
    rintro hout (hin | hticket)
    · rw [hout] at hin
      cases hin
    · have hwanted := (h.sound.sound_cancel hv).mem_wanted.2 ⟨_, hv, rfl, rfl, hticket⟩
      rw [h.sound.wanted_cancel hv] at hwanted
      simp at hwanted
  | leave hv hin hdeparts => exact .leave hv hin hdeparts.visits hsame
  | nothing hidle =>
    rw [LockTable.report_of_idle hidle, hsame]
    exact .nothing hidle

/-- Whatever the tasks do, in whichever order, no look-up and no release fails. At most one visit of a
key is inside at a time; the visits of a key share one lock and get inside in the order of their requests,
and only those who gave up are passed over; a key has entries exactly while it is visited. The queues
that are told of the same acts list those who have not given up, and whoever is inside holds its key
there. -/
theorem run_is_orderly (acts : List Act) : ∃ t, run acts = .ok t ∧ t.Orderly := by
  obtain ⟨t, hrun, hkept⟩ := Kept.empty.run acts
  exact ⟨t, hrun, hkept.orderly⟩

/-- An act after a run does to the visits what it stands for: a request adds one, one who was called gets
inside, and one who leaves or has given up ends its visit; else nothing happens. -/
theorem run_moves (acts : List Act) (act : Act) :
    ∃ t t', run acts = .ok t ∧ run (acts ++ [act]) = .ok t' ∧ Moves t act t' := by
  obtain ⟨t, hrun, hkept⟩ := Kept.empty.run acts
  obtain ⟨t', hadvance, hmoves⟩ := hkept.moves act
  have hbind : run (acts ++ [act]) = t.advance act :=
    (run_concat acts act).trans (congrArg (· >>= _) hrun)
  exact ⟨t, t', hrun, hbind.trans hadvance, hmoves⟩

/-- One who was cancelled while it waited is passed over, and calls the next. -/
example : (run [.request "a", .request "a", .request "a", .cancel 1, .leave 0, .goOn 1,
    .goOn 2]).map (·.entered) = .ok [("a", 0), ("a", 2)] := by decide

end Traced

end Coselect.Selection
