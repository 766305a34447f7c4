import Coselect.Proofs.Analysis.Leads
import Coselect.Analysis.Expand

/-! Where tests are found for a file. Looking for them can fail in two ways alone: at a segment of a
pattern that does not compile, and at an entry of the patterns that is no text. -/

namespace Coselect.Analysis

open Disk Inquiry

variable {T : Terms} {α β : Type}

namespace Terms

/-- Nothing is known, and everything is allowed. -/
def free : Terms where
  answers _ _ := True
  signals _ := True
  met _ := True
  may _ := True
  may_id := trivial

end Terms

namespace Work

/-- Whatever the work meets, it comes to a value. -/
structure Succeeds (x : Work α) : Prop where
  leads : x.run.Leads .free fun r => ∃ a, r = .ok a

theorem succeeds_pure (a : α) : (pure a : Work α).Succeeds := ⟨a, rfl⟩

theorem succeeds_ofInquiry (t : Inquiry α) : (ofInquiry t).Succeeds :=
  ⟨Leads.bind (leads_of_forall (fun _ => trivial) fun _ => trivial) fun a (_ : True) => ⟨a, rfl⟩⟩

theorem Succeeds.bind {x : Work α} {f : α → Work β} (hx : x.Succeeds) (hf : ∀ a, (f a).Succeeds) :
    (x >>= f).Succeeds :=
  ⟨Work.leads_bind hx.leads (fun a _ => (hf a).leads) nofun⟩

/-- On a disk that does not change there is a value. -/
theorem Succeeds.run {x : Work α} (h : x.Succeeds) (d : Volume) (signal : List Query → Signal)
    (asked : List Query) (c : Caches) : ∃ a, (x.run.run d signal asked c).1 = .ok a := by
  have h := h.leads
  generalize x.run = t at h ⊢
  induction t generalizing asked c with
  | done r => exact h
  | ask q k ih => exact ih _ _ _ (h _ trivial)
  | change f k ih => exact ih _ _ _ (h.2 c trivial)
  | look k ih => exact ih _ _ _ (h _ trivial)
  | pause next ih => exact ih _ _ h

end Work

/-- A segment of a pattern compiles, or there is nothing in it to compile. -/
def Compiles (segment : String) : Prop :=
  segment = "**" ∨ hasWildcard segment = false ∨ (Glob.compile segment).isOk = true

instance : DecidablePred Compiles := fun _ => inferInstanceAs (Decidable (_ ∨ _ ∨ _))

/-- All segments of a pattern compile. -/
def WellFormed (pattern : String) : Prop :=
  ∀ segment ∈ Text.split '/' (Path.normalize pattern), Compiles segment

instance : DecidablePred WellFormed := fun _ => inferInstanceAs (Decidable (∀ _ ∈ _, _))

variable {segment pattern root path : String} {segments patterns suffixes bases : List String}

theorem Compiles.succeeds (h : Compiles segment) (bases : List String) :
    (followSegment segment bases).Succeeds := by
  unfold followSegment
  split
  next => exact Work.succeeds_ofInquiry _
  next hstars =>
    split
    next hwildcard =>
      rcases h with h | h | h
      · exact absurd h hstars
      · exact absurd (hwildcard.symm.trans h) nofun
      · cases hitems : Glob.compile segment with
        | error message => exact absurd ((congrArg Except.isOk hitems).symm.trans h) Bool.false_ne_true
        | ok items => exact (Work.succeeds_pure items).bind fun _ => Work.succeeds_ofInquiry _
    next => exact Work.succeeds_pure _

theorem succeeds_followSegments (h : ∀ segment ∈ segments, Compiles segment) (bases : List String) :
    (followSegments segments bases).Succeeds := by
  induction segments generalizing bases with
  | nil => exact Work.succeeds_pure _
  | cons segment rest ih =>
    obtain ⟨hsegment, hrest⟩ := List.forall_mem_cons.1 h
    cases rest with
    | nil => exact hsegment.succeeds bases
    | cons =>
      refine (hsegment.succeeds bases).bind fun found => ?_
      refine (Work.succeeds_ofInquiry _).bind fun bases => ?_
      split
      next => exact Work.succeeds_pure _
      next => exact ih hrest bases

theorem WellFormed.succeeds (h : WellFormed pattern) : (globFiles pattern).Succeeds := by
  unfold globFiles
  dsimp only
  split
  next =>
    refine (succeeds_followSegments (fun segment hsegment => ?_) _).bind fun _ =>
      Work.succeeds_ofInquiry _
    exact h segment (List.mem_of_mem_drop hsegment)
  next => exact Work.succeeds_ofInquiry _

/-- Patterns that are too costly are not even compiled. -/
theorem succeeds_patternTests (h : ∀ pattern ∈ patterns, (Glob.excess? pattern.toList).isSome = false →
    WellFormed (expandTestPattern root pattern path)) : (patternTests root path patterns).Succeeds := by
  induction patterns with
  | nil => exact Work.succeeds_pure _
  | cons pattern rest ih =>
    obtain ⟨hpattern, hrest⟩ := List.forall_mem_cons.1 h
    rw [patternTests]
    cases hexcess : (Glob.excess? pattern.toList).isSome with
    | true =>
      rw [if_pos rfl]
      exact ih hrest
    | false =>
      rw [if_neg Bool.false_ne_true]
      exact (hpattern hexcess).succeeds.bind fun found => (ih hrest).bind fun _ => Work.succeeds_pure _

theorem succeeds_complete {t : Settings.Texts} (h : t.failure = none) : (complete t).Succeeds := by
  rw [complete, h]
  exact Work.succeeds_pure _

/-- Tests are found where the patterns are texts, and all of them but the costly ones are well formed
once the parts of the file's path are filled in. -/
theorem succeeds_locateTests {texts : Settings.Texts} (htexts : texts.failure = none)
    (hpatterns : ∀ pattern ∈ texts.items, (Glob.excess? pattern.toList).isSome = false →
      WellFormed (expandTestPattern root pattern (Path.normalize path))) :
    (locateTests root path suffixes texts).Succeeds := by
  rw [locateTests]
  cases isTestFile (Path.normalize path) with
  | true => exact Work.succeeds_pure _
  | false =>
    rw [if_neg Bool.false_ne_true]
    refine (Work.succeeds_ofInquiry _).bind fun usual => ?_
    refine (succeeds_patternTests hpatterns).bind fun others => ?_
    exact (succeeds_complete htexts).bind fun _ => Work.succeeds_pure _

end Coselect.Analysis
