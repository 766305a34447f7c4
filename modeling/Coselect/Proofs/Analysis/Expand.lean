import Coselect.Proofs.Analysis.Exclusion

/-! What an expansion makes of a file. However its parts go, nothing is left of them on the node
when one of them failed, and the files it leads to are accepted ones. -/

namespace Coselect.Analysis

open Disk Coselect.Graph Inquiry

variable {α : Type} {T : Terms} {w : Workspace} {p : Settings.Policy} {x : Settings.Exclusions}
  {A : String → Prop} {B : String → String → Prop}

/-- A part came to what satisfies a condition, or time could run out. -/
def Progress.Is (T : Terms) (Q : Except Failure α → Prop) : Progress α → Prop
  | value a => Q (.ok a)
  | failed f => Q (.error f)
  | outOfTime => T.Expire

theorem leads_part {work : Work α} {Q : Except Failure α → Prop} (h : work.run.Leads T Q) :
    (part work).Leads T (Progress.Is T Q) := by
  refine h.withinTime.bind ?_
  rintro _ (⟨rfl, hexpire⟩ | ⟨failure | a, rfl, hr⟩)
  · exact hexpire
  · exact hr
  · exact hr

theorem Footing.leads_targetOf (h : Footing T w x A) (importer specifier : String) :
    (targetOf w x importer specifier).run.Leads T fun r => ∀ path, r = .ok (.file path) → A path := by
  refine Work.leads_ofInquiry_bind (leads_resolve h.loads specifier importer) ?_
  rintro (_ | path) -
  · exact fun path hpath => nomatch hpath
  refine Work.leads_bind (h.accepts path) ?_ fun failure _ path hpath => nomatch hpath
  rintro (_ | reason) hr
  · rintro _ ⟨⟩
    exact hr rfl
  · exact fun path hpath => nomatch hpath

theorem Footing.leads_targets (h : Footing T w x A) (importer : String)
    (statements : List Imports.Statement) {found : List String} (hfound : ∀ v ∈ found, A v)
    (out : LeftOut) : (targets w x importer statements found out).Leads T fun r =>
      ∀ found', r.1 = .value found' → ∀ v ∈ found', A v := by
  induction statements generalizing found out with
  | nil =>
    rintro _ ⟨⟩
    exact hfound
  | cons s rest ih =>
    refine (leads_part (h.leads_targetOf importer s.source)).bind ?_
    rintro ((_ | ⟨path, reason⟩ | path) | failure | _) hr
    · exact ih hfound out
    · exact ih hfound (out.note path reason)
    · refine ih (fun v hv => ?_) out
      split at hv
      next => exact hfound v hv
      next =>
        rcases List.mem_append.1 hv with hv | hv
        · exact hfound v hv
        · rw [List.mem_singleton.1 hv]
          exact hr path rfl
    · exact fun found' hf => nomatch hf
    · exact fun found' hf => nomatch hf

/-- The tests that are found for a file are related to it. -/
def Terms.Lists (T : Terms) (w : Workspace) (p : Settings.Policy) (B : String → String → Prop) :
    Prop :=
  ∀ path, (testsOf w p path).run.Leads T fun r => ∀ tests, r = .ok tests → ∀ v ∈ tests, B path v

theorem lists_true : T.Lists w p fun _ _ => True := fun path =>
  ((confined_testsOf w p path).leads fun _ => False.elim).mono fun _ _ _ _ _ _ => trivial

/-- The node of an expanded file. -/
structure Expanded (A : String → Prop) (B : String → String → Prop) (path : String) (depth : Nat)
    (n : Node) : Prop where
  path : n.path = path
  depth : n.depth = depth
  expanded : n.expanded = true
  failed : n.error.isSome → n.rawImports = [] ∧ n.resolvedImports = [] ∧ n.testFiles = []
  accepted : ∀ v ∈ n.resolvedImports, A v
  tested : ∀ v ∈ n.testFiles, B n.path v

theorem expanded_failedNode (path : String) (depth : Nat) (failure : Failure) :
    Expanded A B path depth (failedNode path depth failure) where
  path := rfl
  depth := rfl
  expanded := rfl
  failed _ := ⟨rfl, rfl, rfl⟩
  accepted _ hv := nomatch hv
  tested _ hv := nomatch hv

theorem Footing.leads_expand (h : Footing T w p.exclusions A) (ht : T.Lists w p B) (path : String)
    (depth : Nat) (out : LeftOut) :
    (expand w p path depth out).Leads T fun r => ∀ n, r.1 = some n → Expanded A B path depth n := by
  have hfailed : ∀ (failure : Failure) (n : Node), some (failedNode path depth failure) = some n →
      Expanded A B path depth n := by
    rintro failure _ ⟨⟩
    exact expanded_failedNode path depth failure
  refine (leads_part (h.imports p.sourceExtensions path)).bind ?_
  rintro (statements | failure | _) -
  · refine (h.leads_targets path statements (List.forall_mem_nil A) out).bind ?_
    rintro ⟨found | failure | _, out⟩ hfound
    · refine (leads_part (ht path)).bind ?_
      rintro (tests | failure | _) htests
      · rintro _ ⟨⟩
        exact ⟨rfl, rfl, rfl, fun hfailed => absurd hfailed Bool.false_ne_true, hfound found rfl,
          htests tests rfl⟩
      · exact hfailed failure
      · exact fun n hn => nomatch hn
    · exact hfailed failure
    · exact fun n hn => nomatch hn
  · exact hfailed failure
  · exact fun n hn => nomatch hn

end Coselect.Analysis
