import Mathlib.Logic.Basic
import Coselect.Analysis.Inquiry

/-! What an inquiry comes to, whatever it is answered, whatever signals it finds, and whatever
others do to the caches while it stands still. The condition on result and caches is pushed
through an inquiry step by step. -/

namespace Coselect.Analysis

open Disk

/-- What may happen around an inquiry: the answers to its questions, the signals it finds, and
what becomes of the caches while it stands still. -/
structure Surroundings where
  answers : (q : Query) → q.Answer → Prop := fun _ _ => True
  signals : Signal → Prop := fun _ => True
  others : Caches → Caches → Prop := fun _ _ => True

/-- Nothing happens around an inquiry alone with a disk; signals come as they like. -/
def Surroundings.still (d : Volume) : Surroundings where
  answers q r := r = d.answer q
  others c c' := c' = c

/-- Nothing happens around an inquiry alone with a disk, and the signals are those that it finds
after some questions. -/
def Surroundings.alone (d : Volume) (signal : List Query → Signal) : Surroundings :=
  { still d with signals s := ∃ asked, signal asked = s }

variable {α β : Type} {e : Surroundings}

namespace Inquiry

/-- However the inquiry goes, it ends with a result and caches that satisfy a condition. -/
def Ends (e : Surroundings) : Inquiry α → Caches → (α → Caches → Prop) → Prop
  | done a, c, Q => Q a c
  | ask q k, c, Q => ∀ r, e.answers q r → ∀ c', e.others c c' → Ends e (k r) c' Q
  | change f k, c, Q => Ends e (k c) (f c) Q
  | look k, c, Q => ∀ s, e.signals s → Ends e (k s) c Q
  | pause next, c, Q => ∀ c', e.others c c' → Ends e next c' Q

theorem Ends.mono {t : Inquiry α} {c : Caches} {Q Q' : α → Caches → Prop} (h : t.Ends e c Q)
    (hq : ∀ a c, Q a c → Q' a c) : t.Ends e c Q' := by
  induction t generalizing c with
  | done a => exact hq a c h
  | ask q k ih => exact fun r hr c' hc => ih r (h r hr c' hc)
  | change f k ih => exact ih c h
  | look k ih => exact fun s hs => ih s (h s hs)
  | pause next ih => exact fun c' hc => ih (h c' hc)

/-- Of fewer signals. -/
theorem Ends.of_signals {t : Inquiry α} {c : Caches} {Q : α → Caches → Prop} {S : Signal → Prop}
    (h : t.Ends e c Q) (hS : ∀ s, S s → e.signals s) : t.Ends { e with signals := S } c Q := by
  induction t generalizing c with
  | done a => exact h
  | ask q k ih => exact fun r hr c' hc => ih r (h r hr c' hc)
  | change f k ih => exact ih c h
  | look k ih => exact fun s hs => ih s (h s (hS s hs))
  | pause next ih => exact fun c' hc => ih (h c' hc)

theorem Ends.and {t : Inquiry α} {c : Caches} {Q Q' : α → Caches → Prop} (h : t.Ends e c Q)
    (h' : t.Ends e c Q') : t.Ends e c fun a c => Q a c ∧ Q' a c := by
  induction t generalizing c with
  | done a => exact ⟨h, h'⟩
  | ask q k ih => exact fun r hr c' hc => ih r (h r hr c' hc) (h' r hr c' hc)
  | change f k ih => exact ih c h h'
  | look k ih => exact fun s hs => ih s (h s hs) (h' s hs)
  | pause next ih => exact fun c' hc => ih (h c' hc) (h' c' hc)

theorem ends_of_forall {t : Inquiry α} {c : Caches} {Q : α → Caches → Prop} (hq : ∀ a c, Q a c) :
    t.Ends e c Q := by
  induction t generalizing c with
  | done a => exact hq a c
  | ask q k ih => exact fun r _ c' _ => ih r
  | change f k ih => exact ih c
  | look k ih => exact fun s _ => ih s
  | pause next ih => exact fun c' _ => ih

@[simp] theorem ends_pure {a : α} {c : Caches} {Q : α → Caches → Prop} :
    (pure a : Inquiry α).Ends e c Q ↔ Q a c := Iff.rfl

@[simp] theorem ends_bind {t : Inquiry α} {f : α → Inquiry β} {c : Caches} {Q : β → Caches → Prop} :
    (t >>= f).Ends e c Q ↔ t.Ends e c fun a c => (f a).Ends e c Q := by
  change (bind t f).Ends e c Q ↔ _
  induction t generalizing c with
  | done a => rfl
  | ask q k ih => exact forall_congr' fun r => imp_congr_right fun _ =>
      forall_congr' fun c' => imp_congr_right fun _ => ih r
  | change g k ih => exact ih c
  | look k ih => exact forall_congr' fun s => imp_congr_right fun _ => ih s
  | pause next ih => exact forall_congr' fun c' => imp_congr_right fun _ => ih

@[simp] theorem ends_caches {c : Caches} {Q : Caches → Caches → Prop} :
    caches.Ends e c Q ↔ Q c c := Iff.rfl

@[simp] theorem ends_swap {f : Caches → Caches} {c : Caches} {Q : Caches → Caches → Prop} :
    (swap f).Ends e c Q ↔ Q c (f c) := Iff.rfl

@[simp] theorem ends_signal {c : Caches} {Q : Signal → Caches → Prop} :
    signal.Ends e c Q ↔ ∀ s, e.signals s → Q s c := Iff.rfl

@[simp] theorem ends_yield {c : Caches} {Q : Unit → Caches → Prop} :
    yield.Ends e c Q ↔ ∀ c', e.others c c' → Q () c' := Iff.rfl

/-- An inquiry that stands still is taken up again, with any answer to its question. -/
inductive Resumes : Inquiry α → Inquiry α → Prop
  | ask (q : Query) (k : q.Answer → Inquiry α) (r : q.Answer) : Resumes (ask q k) (k r)
  | pause (next : Inquiry α) : Resumes (pause next) next

/-- How an inquiry goes on from some caches, up to its end or the next place where it stands
still. -/
inductive Proceeds (signals : Signal → Prop) : Inquiry α → Caches → Inquiry α → Prop
  | done {a c} : Proceeds signals (done a) c (done a)
  | ask {q k c} : Proceeds signals (ask q k) c (ask q k)
  | pause {next c} : Proceeds signals (pause next) c (pause next)
  | change {f k c t} : Proceeds signals (k c) (f c) t → Proceeds signals (change f k) c t
  | look {k c t} (s : Signal) : signals s → Proceeds signals (k s) c t → Proceeds signals (look k) c t

theorem proceeds_settle {signals : Signal → Prop} {s : Signal} (hs : signals s) (t : Inquiry α)
    (c : Caches) : Proceeds signals t c (t.settle s c).1 := by
  induction t generalizing c with
  | done a => exact .done
  | ask q k ih => exact .ask
  | change f k ih => exact .change (ih c (f c))
  | look k ih => exact .look s hs (ih s c)
  | pause next ih => exact .pause

theorem Ends.resumes {signals : Signal → Prop} {t t' : Inquiry α} {c : Caches}
    {Q : α → Caches → Prop} (h : t.Ends { signals } c Q) (ht : Resumes t t') (c' : Caches) :
    t'.Ends { signals } c' Q := by
  cases ht with
  | ask q k r => exact h r trivial c' trivial
  | pause next => exact h c' trivial

theorem Ends.proceeds {t t' : Inquiry α} {c : Caches} {Q : α → Caches → Prop} (h : t.Ends e c Q)
    (ht : Proceeds e.signals t c t') : ∃ c', t'.Ends e c' Q := by
  induction ht with
  | done => exact ⟨_, h⟩
  | ask => exact ⟨_, h⟩
  | pause => exact ⟨_, h⟩
  | change _ ih => exact ih h
  | look s hs _ ih => exact ih (h s hs)

/-- Up to the next place where it stands still, an inquiry is at work alone. -/
theorem Ends.settle {t : Inquiry α} {c : Caches} {Q : α → Caches → Prop} {s : Signal}
    (h : t.Ends e c Q) (hs : e.signals s) : (t.settle s c).1.Ends e (t.settle s c).2 Q := by
  induction t generalizing c with
  | done a => exact h
  | ask q k ih => exact h
  | change f k ih => exact ih c h
  | look k ih => exact ih s (h s hs)
  | pause next ih => exact h

/-- The condition holds of a run alone on a disk, with the signals that it finds. -/
theorem Ends.run_alone {d : Volume} {signal : List Query → Signal} {t : Inquiry α} {c : Caches}
    {Q : α → Caches → Prop} (h : t.Ends (.alone d signal) c Q) (asked : List Query) :
    Q (t.run d signal asked c).1 (t.run d signal asked c).2 := by
  induction t generalizing c asked with
  | done a => exact h
  | ask q k ih => exact ih _ (h _ rfl c rfl) _
  | change f k ih => exact ih c h _
  | look k ih => exact ih _ (h _ ⟨asked, rfl⟩) _
  | pause next ih => exact ih (h c rfl) _

theorem Ends.run {d : Volume} {t : Inquiry α} {c : Caches} {Q : α → Caches → Prop}
    (h : t.Ends (.still d) c Q) (signal : List Query → Signal) (asked : List Query) :
    Q (t.run d signal asked c).1 (t.run d signal asked c).2 :=
  (h.of_signals fun _ _ => trivial).run_alone asked

end Inquiry

namespace Work

@[simp] theorem ends_pure {a : α} {c : Caches} {Q : Except Failure α → Caches → Prop} :
    (pure a : Work α).run.Ends e c Q ↔ Q (.ok a) c := Iff.rfl

@[simp] theorem ends_fail {f : Failure} {c : Caches} {Q : Except Failure α → Caches → Prop} :
    (fail f : Work α).run.Ends e c Q ↔ Q (.error f) c := Iff.rfl

@[simp] theorem ends_ofInquiry {t : Inquiry α} {c : Caches} {Q : Except Failure α → Caches → Prop} :
    (ofInquiry t).run.Ends e c Q ↔ t.Ends e c fun a c => Q (.ok a) c :=
  Inquiry.ends_bind.trans Iff.rfl

theorem ends_bind {x : Work α} {f : α → Work β} {c : Caches} {Q : Except Failure β → Caches → Prop} :
    (x >>= f).run.Ends e c Q ↔ x.run.Ends e c fun r c =>
      match r with
      | .ok a => (f a).run.Ends e c Q
      | .error f => Q (.error f) c := by
  rw [ExceptT.run_bind, Inquiry.ends_bind]
  refine iff_of_eq (congrArg _ ?_)
  funext r c
  cases r <;> rfl

end Work

end Coselect.Analysis
