import Coselect.Proofs.Selection.Lock

/-! The table of the locks. A sound table has entries for the keys that are visited, each with a lock of
its own, which serves the visits of the key, and with their number as its count. A step at one key leaves
the others as they are, and keeps a sound table sound where it does so at that key. -/

namespace Coselect.Selection

variable {l : Lock} {v w : Visit} {n : Nat} {t : Ticket} {key : String}

namespace LockTable

variable {s s' : LockTable} {act : Act} {k : Nat}

/-- The visits of a key. -/
def among (s : LockTable) (key : String) : List Visit := s.visits.filter (·.key = key)

/-- Those before the lock of a key who still want it. -/
def wanted (s : LockTable) (key : String) : List Nat :=
  ((s.lockOf.get? key).map fun k => (s.lock k).wanted).getD []

/-- Those at a key who have not left or given up, whoever is past the lock first. -/
def hopefuls (s : LockTable) (key : String) : List Nat := insiders (s.among key) ++ s.wanted key

theorem mem_among : v ∈ s.among key ↔ v ∈ s.visits ∧ v.key = key := by simp [among]

@[simp] theorem lock_setLock (s : LockTable) (k k' : Nat) (l : Lock) :
    (s.setLock k l).lock k' = if k = k' then l else s.lock k' := by
  unfold lock setLock
  rw [Table.get?_insert]
  split <;> rfl

/-- The entries of a key are those of its visits. -/
structure Fits (s : LockTable) (key : String) (k : Nat) : Prop where
  busy : s.among key ≠ []
  counts : s.counts.get? key = some ((s.among key).length : Int)
  made : k < s.requests
  lock : ∀ v ∈ s.among key, v.lock = k
  serves : (s.lock k).Serves (s.among key)

structure Sound (s : LockTable) : Prop where
  numbered : Numbered s.visits
  bound : ∀ v ∈ s.visits, v.number < s.requests
  idle : ∀ key, s.lockOf.get? key = none → s.counts.get? key = none ∧ s.among key = []
  fits : ∀ key k, s.lockOf.get? key = some k → s.Fits key k
  apart : ∀ key key' k, s.lockOf.get? key = some k → s.lockOf.get? key' = some k → key = key'

/-- Nothing has changed but the entries and visits of one key. -/
structure SameBut (key : String) (s s' : LockTable) : Prop where
  lockOf : ∀ key' ≠ key, s'.lockOf.get? key' = s.lockOf.get? key'
  counts : ∀ key' ≠ key, s'.counts.get? key' = s.counts.get? key'
  among : ∀ key' ≠ key, s'.among key' = s.among key'
  lock : ∀ key' ≠ key, ∀ k, s.lockOf.get? key' = some k → s'.lock k = s.lock k
  requests : s.requests ≤ s'.requests

namespace SameBut

variable {key' : String}

theorem wanted (h : SameBut key s s') (hk : key' ≠ key) : s'.wanted key' = s.wanted key' := by
  unfold LockTable.wanted
  rw [h.lockOf key' hk]
  cases hlock : s.lockOf.get? key' with
  | none => rfl
  | some k => simp [h.lock key' hk k hlock]

theorem hopefuls (h : SameBut key s s') (hk : key' ≠ key) : s'.hopefuls key' = s.hopefuls key' := by
  rw [LockTable.hopefuls, h.among key' hk, h.wanted hk, LockTable.hopefuls]

theorem fits (h : SameBut key s s') (hk : key' ≠ key) (hlock : s.lockOf.get? key' = some k)
    (hfits : s.Fits key' k) : s'.Fits key' k where
  busy := by rw [h.among key' hk]; exact hfits.busy
  counts := by rw [h.counts key' hk, h.among key' hk]; exact hfits.counts
  made := Nat.lt_of_lt_of_le hfits.made h.requests
  lock := by rw [h.among key' hk]; exact hfits.lock
  serves := by rw [h.among key' hk, h.lock key' hk k hlock]; exact hfits.serves

end SameBut

namespace Sound

theorem empty : Sound {} where
  numbered := .nil
  bound := nofun
  idle _ _ := ⟨rfl, rfl⟩
  fits := nofun
  apart := nofun

/-- A step at one key keeps the table sound where it does so at that key. -/
theorem of_sameBut (h : Sound s) (hsame : SameBut key s s') (hnumbered : Numbered s'.visits)
    (hbound : ∀ v ∈ s'.visits, v.number < s'.requests)
    (hidle : s'.lockOf.get? key = none → s'.counts.get? key = none ∧ s'.among key = [])
    (hfits : ∀ k, s'.lockOf.get? key = some k → s'.Fits key k)
    (hlock : ∀ k, s'.lockOf.get? key = some k → s.lockOf.get? key = some k ∨ k = s.requests) :
    Sound s' where
  numbered := hnumbered
  bound := hbound
  idle key' hnone := by
    by_cases hk : key' = key
    · subst hk
      exact hidle hnone
    · rw [hsame.lockOf key' hk] at hnone
      rw [hsame.counts key' hk, hsame.among key' hk]
      exact h.idle key' hnone
  fits key' k hsome := by
    by_cases hk : key' = key
    · subst hk
      exact hfits k hsome
    · rw [hsame.lockOf key' hk] at hsome
      exact hsame.fits hk hsome (h.fits key' k hsome)
  apart := by
    -- another key has an older lock than the newest, and its own
    have hother : ∀ key' k, key' ≠ key → s'.lockOf.get? key = some k →
        s'.lockOf.get? key' ≠ some k := by
      intro key' k hk hsome hsome'
      rw [hsame.lockOf key' hk] at hsome'
      rcases hlock k hsome with hold | rfl
      · exact hk (h.apart key' key k hsome' hold)
      · exact Nat.lt_irrefl _ (h.fits key' _ hsome').made
    intro key₁ key₂ k h₁ h₂
    by_cases hk₁ : key₁ = key
    · subst hk₁
      exact by_contra fun hne => hother key₂ k (Ne.symm hne) h₁ h₂
    · by_cases hk₂ : key₂ = key
      · subst hk₂
        exact absurd h₁ (hother key₁ k hk₁ h₂)
      · rw [hsame.lockOf _ hk₁] at h₁
        rw [hsame.lockOf _ hk₂] at h₂
        exact h.apart _ _ _ h₁ h₂

theorem among_numbered (h : Sound s) (key : String) : Numbered (s.among key) := h.numbered.filter _

theorem lockOf_eq (h : Sound s) (hv : v ∈ s.visits) : s.lockOf.get? v.key = some v.lock := by
  have hmem : v ∈ s.among v.key := mem_among.2 ⟨hv, rfl⟩
  cases hlock : s.lockOf.get? v.key with
  | none => rw [(h.idle v.key hlock).2] at hmem; cases hmem
  | some k => rw [(h.fits v.key k hlock).lock v hmem]

theorem fits_of_mem (h : Sound s) (hv : v ∈ s.visits) : s.Fits v.key v.lock :=
  h.fits v.key v.lock (h.lockOf_eq hv)

theorem wanted_eq (h : Sound s) (hv : v ∈ s.visits) : s.wanted v.key = (s.lock v.lock).wanted := by
  rw [wanted, h.lockOf_eq hv]
  rfl

theorem lock_ne (h : Sound s) (hv : v ∈ s.visits) {key' : String} (hk : key' ≠ v.key)
    (hlock : s.lockOf.get? key' = some k) : v.lock ≠ k :=
  fun he => hk (h.apart key' v.key k hlock (he ▸ h.lockOf_eq hv))

theorem visit?_eq_some_iff (h : Sound s) : s.visit? n = some v ↔ v ∈ s.visits ∧ v.number = n := by
  constructor
  · intro hv
    exact ⟨List.mem_of_find?_eq_some hv, by simpa using List.find?_some hv⟩
  · rintro ⟨hv, rfl⟩
    cases hfind : s.visit? v.number with
    | none => simpa using List.find?_eq_none.1 hfind v hv
    | some w =>
      have hw : w.number = v.number := by simpa using List.find?_some hfind
      rw [h.numbered.eq_of_number hv (List.mem_of_find?_eq_some hfind) hw]

/-! ### A request -/

/-- The lock that a request comes to serves the visits of its key. -/
theorem serves_lockFor (h : Sound s) (key : String) : (s.lockFor key).2.Serves (s.among key) := by
  unfold lockFor
  cases hlock : s.lockOf.get? key with
  | none => rw [(h.idle key hlock).2]; exact Lock.serves_nil
  | some k => exact (h.fits key k hlock).serves

theorem wanted_lockFor (s : LockTable) (key : String) : (s.lockFor key).2.wanted = s.wanted key := by
  unfold lockFor wanted
  cases s.lockOf.get? key <;> rfl

theorem hopefuls_of_isFree (h : Sound s) (hfree : (s.lockFor key).2.isFree = true) :
    s.hopefuls key = [] := by
  have htaken : (s.lockFor key).2.taken = false := by simpa using (Bool.and_eq_true_iff.1 hfree).1
  rw [hopefuls, (h.serves_lockFor key).insiders_eq_nil htaken, ← wanted_lockFor,
    Lock.wanted_of_isFree hfree, List.append_nil]

theorem isFree_lockFor (h : Sound s) (hnone : ∀ v ∈ s.visits, v.key ≠ key) :
    (s.lockFor key).2.isFree = true := by
  unfold lockFor
  cases hlock : s.lockOf.get? key with
  | none => rfl
  | some k =>
    refine absurd ?_ (h.fits key k hlock).busy
    exact List.filter_eq_nil_iff.2 fun v hv => by simpa using hnone v hv

theorem lockFor_fst (s : LockTable) (key : String) :
    s.lockOf.get? key = some (s.lockFor key).1 ∨ (s.lockFor key).1 = s.requests := by
  unfold lockFor
  cases s.lockOf.get? key with
  | none => exact .inr rfl
  | some k => exact .inl rfl

theorem lockFor_le (h : Sound s) (key : String) : (s.lockFor key).1 ≤ s.requests := by
  rcases lockFor_fst s key with hold | hnew
  · exact Nat.le_of_lt (h.fits key _ hold).made
  · exact Nat.le_of_eq hnew

theorem lockFor_ne (h : Sound s) {key' : String} (hk : key' ≠ key)
    (hlock : s.lockOf.get? key' = some k) : (s.lockFor key).1 ≠ k := by
  rcases lockFor_fst s key with hold | hnew
  · exact fun he => hk (h.apart key' key k hlock (he ▸ hold))
  · rw [hnew]
    exact Nat.ne_of_gt (h.fits key' k hlock).made

theorem lock_of_among (h : Sound s) (hv : v ∈ s.among key) : v.lock = (s.lockFor key).1 := by
  obtain ⟨hmem, rfl⟩ := mem_among.1 hv
  rw [lockFor, h.lockOf_eq hmem]

theorem counts_getD (h : Sound s) (key : String) :
    (s.counts.get? key).getD 0 = ((s.among key).length : Int) := by
  cases hlock : s.lockOf.get? key with
  | none => rw [(h.idle key hlock).1, (h.idle key hlock).2]; rfl
  | some k => rw [(h.fits key k hlock).counts]; rfl

end Sound

/-- The visit that a request begins. -/
def newVisit (s : LockTable) (key : String) : Visit :=
  ⟨s.requests, key, (s.lockFor key).1, (s.lockFor key).2.isFree⟩

theorem visits_request (s : LockTable) (key : String) :
    (s.request key).visits = s.visits ++ [s.newVisit key] := rfl

theorem lock_request (s : LockTable) (key : String) (k : Nat) : (s.request key).lock k =
    if (s.lockFor key).1 = k then
      if (s.lockFor key).2.isFree then { (s.lockFor key).2 with taken := true }
      else (s.lockFor key).2.join s.requests
    else s.lock k :=
  lock_setLock s _ k _

theorem among_request (s : LockTable) (key : String) :
    (s.request key).among key = s.among key ++ [s.newVisit key] := by
  simp [among, visits_request, newVisit]

namespace Sound

theorem sameBut_request (h : Sound s) (key : String) : SameBut key s (s.request key) where
  lockOf key' hk := by simp [LockTable.request, Ne.symm hk]
  counts key' hk := by simp [LockTable.request, Ne.symm hk]
  among key' hk := by simp [among, visits_request, newVisit, Ne.symm hk]
  lock key' hk k hlock := by rw [lock_request, if_neg (h.lockFor_ne hk hlock)]
  requests := Nat.le_succ _

theorem fits_request (h : Sound s) (key : String) : (s.request key).Fits key (s.lockFor key).1 where
  busy := by simp [among_request]
  counts := by
    have hcount : (s.request key).counts.get? key = some ((s.counts.get? key).getD 0 + 1) :=
      Table.get?_insert_self ..
    rw [hcount, h.counts_getD, among_request, List.length_append]
    rfl
  made := Nat.lt_succ_of_le (h.lockFor_le key)
  lock v hv := by
    rw [among_request] at hv
    rcases List.mem_append.1 hv with hv | hv
    · exact h.lock_of_among hv
    · rw [List.mem_singleton.1 hv]
      rfl
  serves := by
    rw [lock_request, if_pos rfl, among_request]
    split
    next hfree => exact (h.serves_lockFor key).letIn hfree hfree
    next hfree =>
      have hfree : (s.lockFor key).2.isFree = false := by simpa using hfree
      exact (h.serves_lockFor key).join (v := s.newVisit key) hfree hfree

theorem sound_request (h : Sound s) (key : String) : Sound (s.request key) := by
  refine h.of_sameBut (h.sameBut_request key) ?_ ?_ ?_ ?_ ?_
  · rw [visits_request]
    refine List.pairwise_append.2 ⟨h.numbered, List.pairwise_singleton .., fun v hv w hw => ?_⟩
    rw [List.mem_singleton.1 hw]
    exact h.bound v hv
  · intro v hv
    rw [visits_request] at hv
    rcases List.mem_append.1 hv with hv | hv
    · exact Nat.lt_succ_of_lt (h.bound v hv)
    · rw [List.mem_singleton.1 hv]
      exact Nat.lt_succ_self _
  · intro hnone
    simp [LockTable.request] at hnone
  · intro k hlock
    obtain rfl : (s.lockFor key).1 = k := by simpa [LockTable.request] using hlock
    exact h.fits_request key
  · intro k hlock
    obtain rfl : (s.lockFor key).1 = k := by simpa [LockTable.request] using hlock
    exact lockFor_fst s key

theorem wanted_request (s : LockTable) (key : String) : (s.request key).wanted key =
    if (s.lockFor key).2.isFree then [] else s.wanted key ++ [s.requests] := by
  have hlock : (s.request key).lockOf.get? key = some (s.lockFor key).1 := Table.get?_insert_self ..
  rw [wanted, hlock, Option.map_some, Option.getD_some, lock_request, if_pos rfl]
  split
  next hfree =>
    change (s.lockFor key).2.wanted = []
    exact Lock.wanted_of_isFree hfree
  next => rw [Lock.wanted_join, wanted_lockFor]

theorem hopefuls_request (s : LockTable) (key : String) :
    (s.request key).hopefuls key = s.hopefuls key ++ [s.requests] := by
  rw [hopefuls, among_request, insiders_concat, wanted_request, hopefuls]
  cases hfree : (s.lockFor key).2.isFree with
  | true =>
    have hnone : s.wanted key = [] := by rw [← wanted_lockFor, Lock.wanted_of_isFree hfree]
    simp [newVisit, hfree, hnone]
  | false => simp [newVisit, hfree]

/-! ### The other steps -/

theorem uncount_eq {count : Int} (hcount : s.counts.get? key = some count)
    (hlock : s.lockOf.get? key = some k) : ∃ s', s.uncount key = .ok s' ∧ s'.visits = s.visits ∧
      s'.locks = s.locks ∧ s'.requests = s.requests ∧
      (∀ key', s'.counts.get? key' =
        if key' = key then if count = 1 then none else some (count - 1) else s.counts.get? key') ∧
      ∀ key', s'.lockOf.get? key' =
        if key' = key ∧ count = 1 then none else s.lockOf.get? key' := by
  have hcontains : s.lockOf.contains key = true := Table.contains_iff.2 ⟨k, hlock⟩
  unfold uncount
  simp only [hcount, hcontains, if_true]
  by_cases hone : count = 1
  · rw [if_neg (by omega)]
    exact ⟨_, rfl, rfl, rfl, rfl, by simp [hone], by simp [hone]⟩
  · rw [if_pos (by omega)]
    exact ⟨_, rfl, rfl, rfl, rfl, by simp [hone, eq_comm], by simp [hone]⟩

theorem sameBut_setLock (h : Sound s) (hv : v ∈ s.visits) (l : Lock) :
    SameBut v.key s (s.setLock v.lock l) where
  lockOf _ _ := rfl
  counts _ _ := rfl
  among _ _ := rfl
  lock key' hk k hlock := by rw [lock_setLock, if_neg (h.lock_ne hv hk hlock)]
  requests := Nat.le_refl _

theorem sound_cancel (h : Sound s) (hv : v ∈ s.visits) :
    Sound (s.setLock v.lock ((s.lock v.lock).cancel v.number)) := by
  have hfits := h.fits_of_mem hv
  have hlock := h.lockOf_eq hv
  refine h.of_sameBut (h.sameBut_setLock hv _) h.numbered h.bound (h.idle v.key) (fun k hk => ?_)
    fun k hk => .inl hk
  obtain rfl : v.lock = k := Option.some.inj (hlock.symm.trans hk)
  exact {
    busy := hfits.busy
    counts := hfits.counts
    made := hfits.made
    lock := hfits.lock
    serves := by
      rw [lock_setLock, if_pos rfl]
      exact hfits.serves.cancel v.number }

theorem among_enter (s : LockTable) (v : Visit) (key : String) :
    (s.enter v).among key = passed (s.among key) v :=
  filter_passed s.visits v key

theorem sameBut_enter (h : Sound s) (hv : v ∈ s.visits) : SameBut v.key s (s.enter v) where
  lockOf _ _ := rfl
  counts _ _ := rfl
  among key' hk := by
    rw [among_enter]
    exact passed_of_notMem fun hmem => hk (mem_among.1 hmem).2.symm
  lock := (h.sameBut_setLock hv _).lock
  requests := Nat.le_refl _

theorem fits_enter (h : Sound s) (hv : v ∈ s.visits)
    (hcalled : (v.number, .called) ∈ (s.lock v.lock).line) : (s.enter v).Fits v.key v.lock := by
  have hfits := h.fits_of_mem hv
  have hmem : v ∈ s.among v.key := mem_among.2 ⟨hv, rfl⟩
  have hlock : (s.enter v).lock v.lock = (s.lock v.lock).take v.number :=
    (lock_setLock s v.lock v.lock _).trans (if_pos rfl)
  exact {
    busy := by rw [among_enter, passed, Ne, List.map_eq_nil_iff]; exact hfits.busy
    counts := by
      rw [among_enter, passed, List.length_map]
      exact hfits.counts
    made := hfits.made
    lock := fun w hw => by
      rw [among_enter] at hw
      obtain ⟨u, hu, -, -, hulock⟩ := of_mem_passed hw
      rw [← hulock, hfits.lock u hu]
    serves := by
      rw [among_enter, hlock]
      exact hfits.serves.take (h.among_numbered _) hmem hcalled }

theorem sound_enter (h : Sound s) (hv : v ∈ s.visits)
    (hcalled : (v.number, .called) ∈ (s.lock v.lock).line) : Sound (s.enter v) := by
  refine h.of_sameBut (h.sameBut_enter hv) (h.numbered.pass v) (fun w hw => ?_)
    (fun hnone => ?_) (fun k hk => ?_) fun k hk => .inl hk
  · obtain ⟨u, hu, hnumber, -, -⟩ := of_mem_passed hw
    exact hnumber ▸ h.bound u hu
  · exact absurd ((h.lockOf_eq hv).symm.trans hnone) (by simp)
  · obtain rfl : v.lock = k := Option.some.inj ((h.lockOf_eq hv).symm.trans hk)
    exact h.fits_enter hv hcalled

end Sound

/-- What the end of a visit does, with a lock of its key put in the place of the old one: with the
last visit of a key its entries go. -/
structure Departs (s s' : LockTable) (v : Visit) (l : Lock) : Prop where
  visits : s'.visits = s.visits.erase v
  requests : s'.requests = s.requests
  lock : ∀ k, s'.lock k = if v.lock = k then l else s.lock k
  lockOf : ∀ key, s'.lockOf.get? key =
    if key = v.key ∧ (s.among v.key).erase v = [] then none else s.lockOf.get? key
  counts : ∀ key, s'.counts.get? key =
    if key = v.key then
      if (s.among v.key).erase v = [] then none else some (((s.among v.key).erase v).length : Int)
    else s.counts.get? key

namespace Sound

theorem departs (h : Sound s) (hv : v ∈ s.visits) (l : Lock) :
    ∃ s', (s.setLock v.lock l).depart v = .ok s' ∧ Departs s s' v l := by
  have hmem : v ∈ s.among v.key := mem_among.2 ⟨hv, rfl⟩
  have hlength : ((s.among v.key).erase v).length + 1 = (s.among v.key).length := by
    rw [List.length_erase_of_mem hmem]
    have := List.length_pos_of_mem hmem
    omega
  have hlast : ((s.among v.key).length : Int) = 1 ↔ (s.among v.key).erase v = [] := by
    rw [← List.length_eq_zero_iff]
    omega
  obtain ⟨s', hdepart, hvisits, hlocks, hrequests, hcounts, hlockOf⟩ :=
    uncount_eq (s := { s.setLock v.lock l with visits := s.visits.erase v }) (h.fits_of_mem hv).counts
      (h.lockOf_eq hv)
  exact ⟨s', hdepart, {
    visits := hvisits
    requests := hrequests
    lock := fun k => by
      rw [← lock_setLock, LockTable.lock, hlocks]
      rfl
    lockOf := fun key => by
      simp only [hlockOf, hlast]
      rfl
    counts := fun key => by
      have hless : ((s.among v.key).length : Int) - 1 = (((s.among v.key).erase v).length : Int) := by omega
      simp only [hcounts, hlast, hless]
      rfl }⟩

end Sound

namespace Departs

theorem among (h : Departs s s' v l) (hs : Sound s) (key : String) :
    s'.among key = (s.among key).erase v := by
  rw [LockTable.among, h.visits]
  exact hs.numbered.filter_erase v _

theorem sameBut (h : Departs s s' v l) (hs : Sound s) (hv : v ∈ s.visits) : SameBut v.key s s' where
  lockOf key hk := by rw [h.lockOf, if_neg fun hboth => hk hboth.1]
  counts key hk := by rw [h.counts, if_neg hk]
  among key hk := by
    rw [h.among hs, List.erase_of_not_mem fun hin => hk (mem_among.1 hin).2.symm]
  lock key hk k hlock := by rw [h.lock, if_neg (hs.lock_ne hv hk hlock)]
  requests := Nat.le_of_eq h.requests.symm

theorem lockOf_eq_some_iff (h : Departs s s' v l) (hs : Sound s) (hv : v ∈ s.visits) :
    s'.lockOf.get? v.key = some k ↔ v.lock = k ∧ (s.among v.key).erase v ≠ [] := by
  rw [h.lockOf, hs.lockOf_eq hv]
  by_cases hnil : (s.among v.key).erase v = [] <;> simp [hnil]

theorem lockOf_eq_none_iff (h : Departs s s' v l) (hs : Sound s) (hv : v ∈ s.visits) :
    s'.lockOf.get? v.key = none ↔ (s.among v.key).erase v = [] := by
  rw [h.lockOf, hs.lockOf_eq hv]
  by_cases hnil : (s.among v.key).erase v = [] <;> simp [hnil]

theorem fits (h : Departs s s' v l) (hs : Sound s) (hv : v ∈ s.visits)
    (hl : l.Serves ((s.among v.key).erase v)) (hne : (s.among v.key).erase v ≠ []) :
    s'.Fits v.key v.lock where
  busy := by rwa [h.among hs]
  counts := by rw [h.counts, if_pos rfl, if_neg hne, h.among hs]
  made := by rw [h.requests]; exact (hs.fits_of_mem hv).made
  lock w hw := by
    rw [h.among hs] at hw
    exact (hs.fits_of_mem hv).lock w (List.mem_of_mem_erase hw)
  serves := by rwa [h.among hs, h.lock, if_pos rfl]

theorem sound (h : Departs s s' v l) (hs : Sound s) (hv : v ∈ s.visits)
    (hl : l.Serves ((s.among v.key).erase v)) : Sound s' := by
  refine hs.of_sameBut (h.sameBut hs hv) ?_ ?_ (fun hnone => ?_) (fun k hk => ?_) fun k hk => ?_
  · rw [h.visits]
    exact hs.numbered.sublist List.erase_sublist
  · rw [h.visits, h.requests]
    exact fun w hw => hs.bound w (List.mem_of_mem_erase hw)
  · have hnil := (h.lockOf_eq_none_iff hs hv).1 hnone
    exact ⟨by rw [h.counts, if_pos rfl, if_pos hnil], by rw [h.among hs, hnil]⟩
  · obtain ⟨rfl, hne⟩ := (h.lockOf_eq_some_iff hs hv).1 hk
    exact h.fits hs hv hl hne
  · exact .inl (by rw [← ((h.lockOf_eq_some_iff hs hv).1 hk).1, hs.lockOf_eq hv])

theorem wanted (h : Departs s s' v l) (hs : Sound s) (hv : v ∈ s.visits)
    (hl : l.Serves ((s.among v.key).erase v)) : s'.wanted v.key = l.wanted := by
  unfold LockTable.wanted
  cases hk : s'.lockOf.get? v.key with
  | some k =>
    obtain ⟨rfl, -⟩ := (h.lockOf_eq_some_iff hs hv).1 hk
    rw [Option.map_some, Option.getD_some, h.lock, if_pos rfl]
  | none =>
    rw [(h.lockOf_eq_none_iff hs hv).1 hk] at hl
    exact (List.eq_nil_of_subset_nil hl.wanted_subset).symm

end Departs

/-! ### Sound tables -/

namespace Sound

theorem alone (h : Sound s) (hv : v ∈ s.visits) (hw : w ∈ s.visits) (hkey : v.key = w.key)
    (hvin : v.inside = true) (hwin : w.inside = true) : v = w := by
  have hmemw : w ∈ s.among v.key := mem_among.2 ⟨hw, hkey.symm⟩
  have hmem : w.number ∈ insiders (s.among v.key) := mem_insiders.2 ⟨w, hmemw, hwin, rfl⟩
  rw [(h.fits_of_mem hv).serves.insiders_eq_singleton (mem_among.2 ⟨hv, rfl⟩) hvin,
    List.mem_singleton] at hmem
  exact h.numbered.eq_of_number hw hv hmem.symm

theorem lock_eq_iff (h : Sound s) (hv : v ∈ s.visits) (hw : w ∈ s.visits) :
    v.lock = w.lock ↔ v.key = w.key := by
  have hv' := h.lockOf_eq hv
  have hw' := h.lockOf_eq hw
  refine ⟨fun hlock => h.apart _ _ _ hv' (hlock ▸ hw'), fun hkey => ?_⟩
  rw [hkey, hw'] at hv'
  exact (Option.some.inj hv').symm

theorem exists_ticket (h : Sound s) (hv : v ∈ s.visits) (hin : v.inside = false) :
    ∃ ticket, (s.lock v.lock).ticket? v.number = some ticket := by
  have hserves := (h.fits_of_mem hv).serves
  have hmem : v.number ∈ outsiders (s.among v.key) :=
    mem_outsiders.2 ⟨v, mem_among.2 ⟨hv, rfl⟩, hin, rfl⟩
  rw [← hserves.line] at hmem
  obtain ⟨p, hp, hnumber⟩ := List.mem_map.1 hmem
  exact ⟨p.2, (hserves.ticket?_eq_some_iff (h.among_numbered _)).2 (hnumber ▸ hp)⟩

theorem mem_wanted (h : Sound s) : n ∈ s.wanted key ↔
    ∃ v ∈ s.visits, v.key = key ∧ v.number = n ∧
      ∃ ticket, (s.lock v.lock).ticket? v.number = some ticket ∧ ticket.wanted = true := by
  constructor
  · intro hmem
    unfold LockTable.wanted at hmem
    cases hlock : s.lockOf.get? key with
    | none => simp [hlock] at hmem
    | some k =>
      rw [hlock, Option.map_some, Option.getD_some] at hmem
      have hfits := h.fits key k hlock
      obtain ⟨ticket, hline, hwanted⟩ := Lock.mem_wanted.1 hmem
      obtain ⟨v, hv, -, rfl⟩ := hfits.serves.mem_line hline
      refine ⟨v, (mem_among.1 hv).1, (mem_among.1 hv).2, rfl, ticket, ?_, hwanted⟩
      rw [hfits.lock v hv]
      exact (hfits.serves.ticket?_eq_some_iff (h.among_numbered key)).2 hline
  · rintro ⟨v, hv, rfl, rfl, ticket, hticket, hwanted⟩
    rw [h.wanted_eq hv]
    exact Lock.mem_wanted.2
      ⟨ticket, ((h.fits_of_mem hv).serves.ticket?_eq_some_iff (h.among_numbered _)).1 hticket, hwanted⟩

theorem awake (h : Sound s) (hv : v ∈ s.visits)
    (hnone : ∀ w ∈ s.visits, w.key = v.key → w.inside = false) :
    ∀ p ∈ (s.lock v.lock).line.head?, p.2 ≠ .waiting := by
  have hserves := (h.fits_of_mem hv).serves
  have hinsiders : insiders (s.among v.key) = [] := by
    refine List.eq_nil_iff_forall_not_mem.2 fun n hn => ?_
    obtain ⟨w, hw, hin, -⟩ := mem_insiders.1 hn
    rw [hnone w (mem_among.1 hw).1 (mem_among.1 hw).2] at hin
    cases hin
  have htaken := hserves.taken
  rw [hinsiders] at htaken
  refine hserves.ready ?_
  cases hlock : (s.lock v.lock).taken with
  | false => rfl
  | true => rw [hlock] at htaken; cases htaken

theorem contains_iff (h : Sound s) (key : String) :
    (s.lockOf.contains key = true ↔ ∃ v ∈ s.visits, v.key = key) ∧
      (s.counts.contains key = true ↔ ∃ v ∈ s.visits, v.key = key) := by
  have hamong : (∃ v ∈ s.visits, v.key = key) ↔ s.among key ≠ [] := by
    rw [Ne, List.eq_nil_iff_forall_not_mem]
    simp [mem_among]
  rw [Table.contains_iff, Table.contains_iff, hamong]
  cases hlock : s.lockOf.get? key with
  | none => simp [h.idle key hlock]
  | some k => simp [(h.fits key k hlock).busy, (h.fits key k hlock).counts]

end Sound

end LockTable

end Coselect.Selection
