import Coselect.Analysis.Analyze
import Coselect.Proofs.Analysis.Ends

/-! An analysis that finds no signal of a cancellation comes to no graph that is marked as
cancelled, whatever it is answered and whatever others do to the caches. -/

namespace Coselect.Analysis

open Coselect.Graph

/-- No look finds a cancellation. -/
def Uncancelled (s : Signal) : Prop := s.cancelled = false

variable {w : Workspace}

theorem survey_uncancelled {p : Settings.Policy} {b : Bounds} (fuel : Nat) (s : Survey) (c : Caches) :
    (survey w p b fuel s).Ends { signals := Uncancelled } c fun r _ => r.2 ≠ .cancelled := by
  induction fuel generalizing s c with
  | zero => simp [survey]
  | succ fuel ih =>
    unfold survey
    split
    next => simp
    next path walk _ =>
      simp only [Inquiry.ends_bind, Inquiry.ends_signal]
      intro signal hsignal
      rw [if_neg (by simp [show signal.cancelled = false from hsignal])]
      split
      next => simp
      next =>
        simp only [Inquiry.ends_bind, Inquiry.ends_yield]
        intro c' _
        refine Inquiry.ends_of_forall ?_
        rintro ⟨node?, leftOut⟩ c
        cases node? with
        | none => simp
        | some node =>
          rcases ha : Survey.absorb { s with walk, leftOut } b node with ⟨s', full⟩
          simp only [ha]
          cases full with
          | true => simp
          | false => exact ih s' c

theorem analyze_uncancelled (config : Settings.Config) (root : String) (maxNodes : Nat) (c : Caches) :
    (analyze w config root maxNodes).run.Ends { signals := Uncancelled } c
      fun r _ => ∀ g, r = .ok g → g.cancelled = false := by
  unfold analyze
  split
  next f _ => exact fun g hg => nomatch hg
  next p _ =>
    simp only [Work.ends_bind, Work.ends_ofInquiry, Work.ends_pure]
    refine Inquiry.ends_of_forall ?_
    rintro (f | m) c
    · exact fun g hg => nomatch hg
    refine (survey_uncancelled _ _ c).mono ?_
    rintro ⟨s, reason⟩ c hreason
    refine Inquiry.ends_of_forall ?_
    rintro (f | rootReason) c
    · exact fun g hg => nomatch hg
    · rintro g ⟨⟩
      simpa [Survey.graph, DependencyGraph.withReverseEdges] using hreason

end Coselect.Analysis
