import Coselect.Proofs.Analysis.Ends

/-! What an inquiry comes to among others. Before each of its steps others may have done with the
caches what they like, as long as a condition on them holds, and the inquiry makes only changes of
a known kind; so what it comes to hangs on nothing but that condition, the answers to its questions
and the signals it finds. -/

namespace Coselect.Analysis

open Disk

variable {α β : Type} {e : Surroundings} {d : Volume} {I : Caches → Prop} {c : Caches}

/-- The terms on which an inquiry works among others: the answers and signals it may get, what the
caches that it meets satisfy, and the changes it may make to them. -/
structure Terms where
  answers : (q : Query) → q.Answer → Prop
  signals : Signal → Prop
  met : Caches → Prop
  may : (Caches → Caches) → Prop
  may_id : may id

namespace Terms

variable {T : Terms}

/-- Every question is answered as a disk answers it. -/
def Shows (T : Terms) (d : Volume) : Prop := ∀ q r, T.answers q r → r = d.answer q

/-- Time may run out. -/
def Expire (T : Terms) : Prop := ∃ s, T.signals s ∧ s.expired = true

/-- A request to stop may come. -/
def Cancel (T : Terms) : Prop := ∃ s, T.signals s ∧ s.cancelled = true

end Terms

/-- The terms of those who all keep a condition on the caches. -/
def Surroundings.under (e : Surroundings) (I : Caches → Prop) : Terms where
  answers := e.answers
  signals := e.signals
  met := I
  may f := ∀ c, I c → I (f c)
  may_id _ := id

theorem Surroundings.shows_still : ((still d).under I).Shows d := fun _ _ => id

theorem Surroundings.shows_alone (d : Volume) (signal : List Query → Signal) :
    ((alone d signal).under I).Shows d := fun _ _ => id

namespace Inquiry

variable {T : Terms} {t : Inquiry α} {P Q : α → Prop}

/-- Whatever the inquiry meets on its terms, it keeps to them and comes to a result that satisfies a
condition. -/
def Leads (T : Terms) : Inquiry α → (α → Prop) → Prop
  | done a, Q => Q a
  | ask q k, Q => ∀ r, T.answers q r → Leads T (k r) Q
  | change f k, Q => T.may f ∧ ∀ c, T.met c → Leads T (k c) Q
  | look k, Q => ∀ s, T.signals s → Leads T (k s) Q
  | pause next, Q => Leads T next Q

theorem Leads.mono (h : t.Leads T P) (hq : ∀ a, P a → Q a) : t.Leads T Q := by
  induction t with
  | done a => exact hq a h
  | ask q k ih => exact fun r hr => ih r (h r hr)
  | change f k ih => exact ⟨h.1, fun c hc => ih c (h.2 c hc)⟩
  | look k ih => exact fun s hs => ih s (h s hs)
  | pause next ih => exact ih h

theorem leads_of_forall (hmay : ∀ f, T.may f) (hq : ∀ a, Q a) : t.Leads T Q := by
  induction t with
  | done a => exact hq a
  | ask q k ih => exact fun r _ => ih r
  | change f k ih => exact ⟨hmay f, fun c _ => ih c⟩
  | look k ih => exact fun s _ => ih s
  | pause next ih => exact ih

@[simp] theorem leads_pure {a : α} : (pure a : Inquiry α).Leads T Q ↔ Q a := Iff.rfl

theorem leads_bind {f : α → Inquiry β} {Q : β → Prop} :
    (t >>= f).Leads T Q ↔ t.Leads T fun a => (f a).Leads T Q := by
  change (bind t f).Leads T Q ↔ _
  induction t with
  | done a => rfl
  | ask q k ih => exact forall_congr' fun r => imp_congr_right fun _ => ih r
  | change g k ih => exact and_congr_right fun _ => forall_congr' fun c => imp_congr_right fun _ => ih c
  | look k ih => exact forall_congr' fun s => imp_congr_right fun _ => ih s
  | pause next ih => exact ih

/-- What follows a result that is known. -/
theorem Leads.bind {f : α → Inquiry β} {Q : β → Prop} (ht : t.Leads T P)
    (hf : ∀ a, P a → (f a).Leads T Q) : (t >>= f).Leads T Q :=
  leads_bind.2 (ht.mono hf)

theorem leads_caches : caches.Leads T T.met := ⟨T.may_id, fun _ hc => hc⟩

theorem leads_swap {f : Caches → Caches} (hf : T.may f) : (swap f).Leads T T.met :=
  ⟨hf, fun _ hc => hc⟩

theorem leads_signal : signal.Leads T T.signals := fun _ hs => hs

theorem leads_yield : yield.Leads T fun _ => True := trivial

/-- Within the time the inquiry comes to what it would, unless time may run out. -/
theorem Leads.withinTime (h : t.Leads T Q) : t.withinTime.Leads T fun r =>
    r = none ∧ T.Expire ∨ ∃ a, r = some a ∧ Q a := by
  induction t with
  | done a => exact .inr ⟨a, rfl, h⟩
  | ask q k ih =>
    intro r hr s hs
    change Leads T (if s.expired then done none else Inquiry.withinTime (k r)) _
    split
    next hexpired => exact .inl ⟨rfl, s, hs, hexpired⟩
    next => exact ih r (h r hr)
  | change f k ih => exact ⟨h.1, fun c hc => ih c (h.2 c hc)⟩
  | look k ih => exact fun s hs => ih s (h s hs)
  | pause next ih => exact ih h

/-- The result where others act only while the inquiry stands still. -/
theorem Leads.ends (h : t.Leads (e.under I) Q) (others : ∀ c c', e.others c c' → I c → I c')
    (hc : I c) : t.Ends e c fun a c' => Q a ∧ I c' := by
  induction t generalizing c with
  | done a => exact ⟨h, hc⟩
  | ask q k ih => exact fun r hr c' hc' => ih r (h r hr) (others c c' hc' hc)
  | change f k ih => exact ih c (h.2 c hc) (h.1 c hc)
  | look k ih => exact fun s hs => ih s (h s hs) hc
  | pause next ih => exact fun c' hc' => ih h (others c c' hc' hc)

theorem Leads.ends_still (h : t.Leads ((Surroundings.still d).under I) Q) (hc : I c) :
    t.Ends (.still d) c fun a c' => Q a ∧ I c' := by
  refine h.ends ?_ hc
  rintro c _ rfl hc
  exact hc

section Gives

variable {a v : α}

/-- The inquiry comes to one value. -/
def Gives (T : Terms) (t : Inquiry α) (v : α) : Prop := t.Leads T fun a => a = v

theorem gives_pure : (pure a : Inquiry α).Gives T a := rfl

theorem gives_ask {q : Query} {r : q.Answer} (h : ∀ r', T.answers q r' → r' = r) :
    (ask q done).Gives T r := h

theorem Gives.bind {f : α → Inquiry β} {v : β} (ht : t.Gives T a) (hf : (f a).Gives T v) :
    (t >>= f).Gives T v := by
  refine Leads.bind ht ?_
  rintro _ rfl
  exact hf

theorem Gives.leads (h : t.Gives T v) (hv : Q v) : t.Leads T Q := by
  refine Leads.mono h ?_
  rintro _ rfl
  exact hv

/-- A run on a disk that does not change comes to the value. -/
theorem Gives.run (h : t.Gives ((Surroundings.still d).under I) v) (hc : I c)
    (signal : List Query → Signal) (asked : List Query) : (t.run d signal asked c).1 = v :=
  ((Leads.ends_still h hc).run signal asked).1

end Gives

end Inquiry

namespace Work

open Inquiry

variable {T : Terms} {x : Work α} {f : α → Work β}

/-- Work goes on with its values. -/
theorem leads_bind {P : Except Failure α → Prop} {Q : Except Failure β → Prop} (hx : x.run.Leads T P)
    (hok : ∀ a, P (.ok a) → (f a).run.Leads T Q) (herror : ∀ f, P (.error f) → Q (.error f)) :
    (x >>= f).run.Leads T Q := by
  rw [ExceptT.run_bind]
  refine hx.bind ?_
  rintro (f | a) h
  · exact herror f h
  · exact hok a h

/-- What follows an inquiry that cannot fail. -/
theorem leads_ofInquiry_bind {t : Inquiry α} {P : α → Prop} {Q : Except Failure β → Prop}
    (ht : t.Leads T P) (hf : ∀ a, P a → (f a).run.Leads T Q) : (ofInquiry t >>= f).run.Leads T Q := by
  rw [ExceptT.run_bind]
  exact Inquiry.leads_bind.2 (Leads.bind ht hf)

theorem leads_caches {f : Caches → Work β} {Q : Except Failure β → Prop}
    (hf : ∀ c, T.met c → (f c).run.Leads T Q) : (ofInquiry caches >>= f).run.Leads T Q :=
  leads_ofInquiry_bind Inquiry.leads_caches hf

theorem leads_swap {g : Caches → Caches} {f : Caches → Work β} {Q : Except Failure β → Prop}
    (hg : T.may g) (hf : ∀ c, T.met c → (f c).run.Leads T Q) :
    (ofInquiry (swap g) >>= f).run.Leads T Q :=
  leads_ofInquiry_bind (Inquiry.leads_swap hg) hf

theorem gives_bind {a : α} {v : Except Failure β} (hx : x.run.Gives T (.ok a))
    (hf : (f a).run.Gives T v) : (x >>= f).run.Gives T v := by
  rw [ExceptT.run_bind]
  exact hx.bind hf

theorem gives_bind_error {failure : Failure} (hx : x.run.Gives T (.error failure)) :
    (x >>= f).run.Gives T (.error failure) := by
  rw [ExceptT.run_bind]
  exact hx.bind gives_pure

/-- Work that goes on as the values of its parts do. -/
theorem gives_bind_value {r : Except Failure α} {g : α → Except Failure β} (hx : x.run.Gives T r)
    (hf : ∀ a, r = .ok a → (f a).run.Gives T (g a)) : (x >>= f).run.Gives T (r >>= g) := by
  cases r with
  | error failure => exact gives_bind_error hx
  | ok a => exact gives_bind hx (hf a rfl)

theorem gives_ofInquiry {t : Inquiry α} {v : α} (ht : t.Gives T v) :
    (ofInquiry t).run.Gives T (.ok v) :=
  ht.bind gives_pure

end Work

end Coselect.Analysis
