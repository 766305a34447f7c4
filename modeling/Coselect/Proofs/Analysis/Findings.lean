import Coselect.Analysis.Analyze
import Coselect.Proofs.Analysis.Leads
import Coselect.Proofs.Graph.Absorb

/-! An analysis as a function of what its parts come to. Given the statements of every file, the
file that every specifier leads to, the verdict on every file and its tests, a graph follows; an
analysis whose parts come to these comes to this graph, unless it is stopped. -/

namespace Coselect.Analysis

open Coselect.Graph Imports Inquiry

/-- What the parts of an analysis come to: the statements of a file, the file that a specifier leads
to from an importer, why a file is left out, and the tests of a file. -/
structure Findings where
  statements : String → Except Failure (List Statement)
  lead : String → String → Option String
  reason : String → Except Failure (Option ExcludeReason)
  tests : String → Except Failure (List String)

variable {α : Type} {T : Terms} {w : Workspace} {p : Settings.Policy} {b : Bounds} {root path : String}
  {fuel : Nat} {s : Survey}

namespace Findings

variable (F : Findings)

def target (importer specifier : String) : Except Failure Target :=
  match F.lead specifier importer with
  | none => return .nowhere
  | some path => do
    match ← F.reason path with
    | some reason => return .leftOut path reason
    | none => return .file path

/-- The files that some statements lead to, each once, and the files left out. -/
def targets (importer : String) :
    List Statement → List String → LeftOut → Except Failure (List String) × LeftOut
  | [], found, out => (.ok found, out)
  | s :: rest, found, out =>
    match F.target importer s.source with
    | .error f => (.error f, out)
    | .ok .nowhere => targets importer rest found out
    | .ok (.leftOut path reason) => targets importer rest found (out.note path reason)
    | .ok (.file path) =>
      targets importer rest (if found.contains path then found else found ++ [path]) out

/-- The node of a file and the files left out behind it. -/
def expand (path : String) (depth : Nat) (out : LeftOut) : Node × LeftOut :=
  match F.statements path with
  | .error f => (failedNode path depth f, out)
  | .ok statements =>
    match F.targets path statements [] out with
    | (.error f, out) => (failedNode path depth f, out)
    | (.ok found, out) =>
      match F.tests path with
      | .error f => (failedNode path depth f, out)
      | .ok tests =>
        ({ path, depth, expanded := true, rawImports := statements.map (·.source)
           resolvedImports := found, testFiles := tests }, out)

/-- A turn of the survey: the next file of the walk is expanded and taken in. -/
def turn (b : Bounds) (s : Survey) (path : String) (walk : Walk) : Survey × Bool :=
  let (node, leftOut) := F.expand path (walk.depth path) s.leftOut
  Survey.absorb { s with walk, leftOut } b node

def survey (b : Bounds) : Nat → Survey → Survey × StopReason
  | 0, s => (s, .exhausted)
  | fuel + 1, s =>
    match s.walk.next? with
    | none => (s, .exhausted)
    | some (path, walk) =>
      match F.turn b s path walk with
      | (s, true) => (s, .truncated)
      | (s, false) => survey b fuel s

/-- The survey of all that a root leads to. -/
def surveyOf (b : Bounds) (fuel : Nat) (root : String) : Survey × StopReason :=
  F.survey b fuel { walk := .start root }

/-- The graph of a root. -/
def graph (b : Bounds) (fuel : Nat) (root : String) : Except Failure DependencyGraph := do
  let (s, reason) := F.surveyOf b fuel root
  return s.graph reason root (← F.reason root)

variable {F}

theorem graph_eq_ok {rootReason : Option ExcludeReason} (h : F.reason root = .ok rootReason) :
    F.graph b fuel root =
      .ok ((F.surveyOf b fuel root).1.graph (F.surveyOf b fuel root).2 root rootReason) := by
  rw [graph, h]
  rfl

theorem graph_eq_error {f : Failure} (h : F.reason root = .error f) :
    F.graph b fuel root = .error f := by
  rw [graph, h]
  rfl

/-! ### The files of a survey -/

theorem path_expand (depth : Nat) (out : LeftOut) : (F.expand path depth out).1.path = path := by
  unfold expand
  split
  next => rfl
  next =>
    split
    next => rfl
    next => split <;> rfl

/-- A turn keeps the files that were discovered, and the file that it expands is among them. -/
theorem ready_turn (F : Findings) (b : Bounds) {walk : Walk} (hr : s.walk.Ready)
    (hq : s.walk.next? = some (path, walk)) :
    path ∈ s.walk.depths.keys ∧ (F.turn b s path walk).1.walk.Ready ∧
      s.walk.depths.keys ⊆ (F.turn b s path walk).1.walk.depths.keys := by
  unfold Walk.next? at hq
  cases hqueue : s.walk.queue with
  | nil => simp [hqueue] at hq
  | cons node queue =>
    rw [hqueue] at hq
    obtain ⟨rfl, rfl⟩ := Prod.mk.inj (Option.some.inj hq)
    have hkeys : s.walk.depths.keys = s.walk.expanded ++ node :: queue := by rw [hr, hqueue]
    have hgrows := Walk.grows_absorb b { s.walk with queue }
      (F.expand node (s.walk.depth node) s.leftOut).1.path
      (F.expand node (s.walk.depth node) s.leftOut).1.resolvedImports
    refine ⟨by simp [hkeys], hgrows.ready ?_, hgrows.keys.subset⟩
    simp [Walk.Ready, hkeys, path_expand]

theorem keys_survey (F : Findings) (b : Bounds) (fuel : Nat) (hr : s.walk.Ready) :
    s.walk.depths.keys ⊆ (F.survey b fuel s).1.walk.depths.keys := by
  induction fuel generalizing s with
  | zero => exact fun _ => id
  | succ fuel ih =>
    unfold survey
    split
    next => exact fun _ => id
    next path walk hq =>
      obtain ⟨-, hready, hsub⟩ := ready_turn F b hr hq
      split
      next s' hturn =>
        rw [hturn] at hsub
        exact hsub
      next s' hturn =>
        rw [hturn] at hready hsub
        exact List.Subset.trans hsub (ih hready)

/-! ### An analysis that comes to its findings -/

/-- On some terms the parts of an analysis come to the findings. -/
structure Hold (F : Findings) (T : Terms) (w : Workspace) (p : Settings.Policy) : Prop where
  statements : ∀ path, (importsOf w p.sourceExtensions path).run.Gives T (F.statements path)
  reason : ∀ path, (excludeReason w p.exclusions path).run.Gives T (F.reason path)
  tests : ∀ path, (testsOf w p path).run.Gives T (F.tests path)

/-- So do the specifiers of a file. -/
def Led (F : Findings) (T : Terms) (w : Workspace) (path : String) : Prop :=
  ∀ statements, F.statements path = .ok statements → ∀ s ∈ statements,
    (resolve w.root w.mappingFile s.source path).Gives T (F.lead s.source path)

end Findings

/-- A result as the progress of an expansion. -/
def Progress.ofExcept : Except Failure α → Progress α
  | .ok a => value a
  | .error f => failed f

theorem leads_part_value {work : Work α} {v : Except Failure α} (h : work.run.Gives T v) :
    (part work).Leads T fun r => r = .outOfTime ∧ T.Expire ∨ r = .ofExcept v := by
  refine h.withinTime.bind ?_
  rintro _ (⟨rfl, hexpire⟩ | ⟨failure | a, rfl, rfl⟩)
  · exact .inl ⟨rfl, hexpire⟩
  · exact .inr rfl
  · exact .inr rfl

/-- An analysis stops early where a signal asks for it. -/
def Stopped (T : Terms) (reason : StopReason) : Prop :=
  reason = .timedOut ∧ T.Expire ∨ reason = .cancelled ∧ T.Cancel

namespace Findings

variable {F : Findings}

theorem Hold.gives_targetOf (h : F.Hold T w p) {importer specifier : String}
    (hlead : (resolve w.root w.mappingFile specifier importer).Gives T (F.lead specifier importer)) :
    (targetOf w p.exclusions importer specifier).run.Gives T (F.target importer specifier) := by
  refine Work.gives_bind (Work.gives_ofInquiry hlead) ?_
  unfold target
  cases F.lead specifier importer with
  | none => exact gives_pure
  | some path =>
    refine Work.gives_bind_value (h.reason path) fun reason _ => ?_
    cases reason <;> exact gives_pure

theorem Hold.leads_targets (h : F.Hold T w p) {importer : String} {statements : List Statement}
    (hlead : ∀ s ∈ statements,
      (resolve w.root w.mappingFile s.source importer).Gives T (F.lead s.source importer))
    (found : List String) (out : LeftOut) :
    (Analysis.targets w p.exclusions importer statements found out).Leads T fun r =>
      r.1 = .outOfTime ∧ T.Expire ∨
        r = (.ofExcept (F.targets importer statements found out).1,
          (F.targets importer statements found out).2) := by
  induction statements generalizing found out with
  | nil => exact .inr rfl
  | cons s rest ih =>
    rw [List.forall_mem_cons] at hlead
    refine (leads_part_value (h.gives_targetOf hlead.1)).bind ?_
    rintro _ (⟨rfl, hexpire⟩ | rfl)
    · exact .inl ⟨rfl, hexpire⟩
    rw [Findings.targets]
    rcases F.target importer s.source with failure | _ | ⟨path, reason⟩ | path
    · exact .inr rfl
    · exact ih hlead.2 found out
    · exact ih hlead.2 found (out.note path reason)
    · exact ih hlead.2 _ out

theorem Hold.leads_expand (h : F.Hold T w p) (hled : F.Led T w path) (depth : Nat) (out : LeftOut) :
    (Analysis.expand w p path depth out).Leads T fun r =>
      r.1 = none ∧ T.Expire ∨
        r = (some (F.expand path depth out).1, (F.expand path depth out).2) := by
  refine (leads_part_value (h.statements path)).bind ?_
  rintro _ (⟨rfl, hexpire⟩ | rfl)
  · exact .inl ⟨rfl, hexpire⟩
  rw [Findings.expand]
  cases hstatements : F.statements path with
  | error failure => exact .inr rfl
  | ok statements =>
    refine (h.leads_targets (hled statements hstatements) [] out).bind ?_
    rintro ⟨_, out'⟩ (⟨rfl, hexpire⟩ | heq)
    · exact .inl ⟨rfl, hexpire⟩
    obtain ⟨rfl, rfl⟩ := Prod.mk.inj heq
    dsimp only
    rcases F.targets path statements [] out with ⟨failure | found, out'⟩
    · exact .inr rfl
    refine (leads_part_value (h.tests path)).bind ?_
    rintro _ (⟨rfl, hexpire⟩ | rfl)
    · exact .inl ⟨rfl, hexpire⟩
    dsimp only
    cases F.tests path <;> exact .inr rfl

/-- A survey comes to that of the findings, where they hold for all files that it discovers. -/
theorem Hold.leads_survey (h : F.Hold T w p) (hr : s.walk.Ready)
    (hled : ∀ path ∈ (F.survey b fuel s).1.walk.depths.keys, F.Led T w path) :
    (Analysis.survey w p b fuel s).Leads T fun r => Stopped T r.2 ∨ r = F.survey b fuel s := by
  induction fuel generalizing s with
  | zero => exact .inr rfl
  | succ fuel ih =>
    have hkeys := keys_survey F b (fuel + 1) hr
    unfold Analysis.survey
    rw [Findings.survey] at hled hkeys ⊢
    cases hq : s.walk.next? with
    | none => exact .inr rfl
    | some next =>
      obtain ⟨path, walk⟩ := next
      rw [hq] at hled hkeys
      obtain ⟨hpath, hready, -⟩ := ready_turn F b hr hq
      refine leads_signal.bind fun signal hsignal => ?_
      split
      next hcancelled => exact .inl (.inr ⟨rfl, signal, hsignal, hcancelled⟩)
      split
      next hexpired => exact .inl (.inl ⟨rfl, signal, hsignal, hexpired⟩)
      refine leads_yield.bind fun _ _ => ?_
      refine (h.leads_expand (hled path (hkeys hpath)) _ _).bind ?_
      rintro ⟨_, leftOut⟩ (⟨rfl, hexpire⟩ | heq)
      · exact .inl (.inl ⟨rfl, hexpire⟩)
      obtain ⟨rfl, rfl⟩ := Prod.mk.inj heq
      rcases hturn : F.turn b s path walk with ⟨s', full⟩
      rw [hturn] at hready
      simp only [hturn] at hled ⊢
      rw [Findings.turn] at hturn
      simp only [hturn]
      cases full with
      | true => exact .inr rfl
      | false => exact ih hready hled

end Findings

end Coselect.Analysis
