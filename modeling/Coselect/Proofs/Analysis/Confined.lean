import Coselect.Proofs.Analysis.Leads

/-! What an inquiry may do to the caches, read off the inquiry alone. One whose changes are all of a
kind keeps to the terms that allow them; one that changes nothing comes to one value on one disk,
whatever the caches are. -/

namespace Coselect.Analysis

open Disk

variable {α β : Type} {T : Terms} {d : Volume} {kind : (Caches → Caches) → Prop}

namespace Inquiry

/-- All changes of the caches are of one kind, and the inquiry neither looks for signals nor
pauses. -/
inductive Confined (kind : (Caches → Caches) → Prop) : Inquiry α → Prop
  | done {a : α} : Confined kind (done a)
  | ask {q : Query} {k : q.Answer → Inquiry α} : (∀ r, Confined kind (k r)) → Confined kind (ask q k)
  | change {f : Caches → Caches} {k : Caches → Inquiry α} : kind f → (∀ c, Confined kind (k c)) →
      Confined kind (change f k)

theorem confined_pure {a : α} : (pure a : Inquiry α).Confined kind := .done

theorem confined_ask {q : Query} : (ask q done).Confined kind := .ask fun _ => .done

theorem confined_swap {f : Caches → Caches} (hf : kind f) : (swap f).Confined kind :=
  .change hf fun _ => .done

theorem confined_bind {t : Inquiry α} {f : α → Inquiry β} (ht : t.Confined kind)
    (hf : ∀ a, (f a).Confined kind) : (t >>= f).Confined kind := by
  change (Inquiry.bind t f).Confined kind
  induction ht with
  | done => exact hf _
  | ask _ ih => exact .ask ih
  | change hkind _ ih => exact .change hkind ih

/-- What makes only changes of one kind keeps to all terms that allow them. -/
theorem Confined.leads {t : Inquiry α} (ht : t.Confined kind) (hkind : ∀ f, kind f → T.may f) :
    t.Leads T fun _ => True := by
  induction ht with
  | done => exact trivial
  | ask _ ih => exact fun r _ => ih r
  | change hf _ ih => exact ⟨hkind _ hf, fun c _ => ih c⟩

/-- What changes nothing comes to the same value among others as alone. -/
theorem Confined.gives {t : Inquiry α} (ht : t.Confined fun _ => False) (hd : T.Shows d)
    (signal : List Query → Signal) (asked : List Query) (c : Caches) :
    t.Gives T (t.run d signal asked c).1 := by
  induction ht generalizing asked with
  | done => exact gives_pure
  | @ask q k _ ih =>
    intro r hr
    obtain rfl := hd q r hr
    exact ih _ _
  | change hf => exact hf.elim

end Inquiry

namespace Work

open Inquiry

theorem confined_pure {a : α} : (pure a : Work α).run.Confined kind := .done

theorem confined_fail {failure : Failure} : (fail failure : Work α).run.Confined kind :=
  .done

theorem confined_bind {x : Work α} {f : α → Work β} (hx : x.run.Confined kind)
    (hf : ∀ a, (f a).run.Confined kind) : (x >>= f).run.Confined kind := by
  rw [ExceptT.run_bind]
  refine Inquiry.confined_bind hx ?_
  rintro (f | a)
  · exact Inquiry.confined_pure
  · exact hf a

theorem confined_ofInquiry {t : Inquiry α} (ht : t.Confined kind) : (ofInquiry t).run.Confined kind :=
  Inquiry.confined_bind ht fun _ => Inquiry.confined_pure

theorem confined_read? (path : String) : (read? path).run.Confined kind := by
  refine confined_bind (confined_ofInquiry confined_ask) ?_
  rintro ((_ | _) | _)
  · exact confined_pure
  · exact confined_fail
  · exact confined_pure

end Work

end Coselect.Analysis
