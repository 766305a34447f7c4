import Coselect.Proofs.Analysis.OnDisk

/-! An analyzer that is used again and again while source files change. What its caches hold would
be loaded again as it is, and the statements of a file are kept with a stamp that tells its
version; so no analysis shows which ones went before it. -/

namespace Coselect.Analysis

open Disk Coselect.Graph Inquiry Imports

variable {disk : Nat → Volume} {n : Nat} {w : Workspace} {rules : Except Failure Ignore.Rules}
  {c : Caches} {path : String}

/-- Alone with a disk an inquiry keeps a condition on the caches whatever signals it finds, and when
it finds none it comes to the same value from all caches that satisfy the condition. -/
structure Inquiry.Settled {α : Type} (d : Volume) (I : Caches → Prop) (t : Inquiry α) : Prop where
  keeps : ∀ signal c, I c → I (t.run d signal [] c).2
  value : ∃ v, ∀ asked c, I c → (t.run d quiet asked c).1 = v

theorem settled_analyze {aliases : Except Failure Alias.Mapping}
    (hdisk : ∀ path, Versioned disk path) (haliases : aliasesOn (disk n) w = aliases)
    (hrules : rulesOn (disk n) w = rules) (config : Settings.Config) (root : String)
    (maxNodes : Nat) :
    (analyze w config root maxNodes).run.Settled (disk n)
      (Drawn rules (Told aliases) (Stocked disk)) := by
  refine ⟨fun signal c hc => ?_, graphOn (disk n) w config root maxNodes, fun asked c hc => ?_⟩
  · exact ((ends_analyze_alone hdisk haliases hrules hc).run_alone []).1
  · exact ((ends_analyze_alone hdisk haliases hrules hc).run_alone asked).2.eq_of_quiet

/-! ### An analyzer in use -/

/-- The moment up to which an analyzer was used, and its caches then: it analysed what it was asked
to, found whatever signals there were, and was reset, while time went on. -/
inductive Used (w : Workspace) (disk : Nat → Volume) (size : Int) : Nat → Caches → Prop
  | fresh : Used w disk size 0 (.ofSize size)
  | later {n : Nat} {c : Caches} : Used w disk size n c → Used w disk size (n + 1) c
  | reset {n : Nat} {c : Caches} : Used w disk size n c → Used w disk size n c.reset
  | analyze {n : Nat} {c : Caches} (config : Settings.Config) (root : String) (maxNodes : Nat)
      (signal : List Query → Signal) : Used w disk size n c →
      Used w disk size n ((analyze w config root maxNodes).run.run (disk n) signal [] c).2

theorem Used.drawn {size : Int} (h : Used w disk size n c) (hsize : 1 ≤ size)
    (hdisk : ∀ path, Versioned disk path) (hsettings : ∀ n, SameSettings w (disk 0) (disk n)) :
    Drawn (rulesOn (disk 0) w) (Told (aliasesOn (disk 0) w)) (Stocked disk) c := by
  induction h with
  | fresh => exact drawn_ofSize hsize _
  | later _ ih => exact ih
  | reset _ ih => exact ih.reset nofun Stocked.clear
  | @analyze n c config root maxNodes signal _ ih =>
    have hsettled := settled_analyze hdisk (hsettings n).aliasesOn_eq (hsettings n).rulesOn_eq
      config root maxNodes
    exact hsettled.keeps signal _ ih

/-- However an analyzer was used before, an analysis comes to what it would come to on a new one,
and there is room for what it stores: where the mapping and the ignore files stay as they are, and
whenever a file has one stamp it reads the same. -/
theorem analyze_eq_fresh {size : Int} (hsize : 1 ≤ size) (hdisk : ∀ path, Versioned disk path)
    (hsettings : ∀ n, SameSettings w (disk 0) (disk n)) (hused : Used w disk size n c)
    (config : Settings.Config) (root : String) (maxNodes : Nat) :
    ((analyze w config root maxNodes).run.run (disk n) quiet [] c).1 =
        ((analyze w config root maxNodes).run.run (disk n) quiet [] (.ofSize size)).1 ∧
      ∀ path t statements, ∃ imports, c.imports.store? path t statements = some imports := by
  have hdrawn := hused.drawn hsize hdisk hsettings
  have hsettled := settled_analyze hdisk (hsettings n).aliasesOn_eq (hsettings n).rulesOn_eq
    config root maxNodes
  obtain ⟨v, hv⟩ := hsettled.value
  refine ⟨?_, Cache.exists_store? hdrawn.room⟩
  rw [hv [] c hdrawn, hv [] _ (drawn_ofSize hsize _)]

/-- A file is analysed, rewritten, and analysed again. -/
theorem analyze_eq_fresh_rewritten :
    let disk := rewritten "a.ts" "import './b'" "import './c'"
    let analysis := (analyze (.ofRoot "/") { includeTests := .bool false } "/a.ts" 10).run
    let c := (analysis.run (disk 0) quiet [] (.ofSize 1)).2
    c.imports.entries.keys = ["/a.ts"] ∧
      (analysis.run (disk 1) quiet [] c).1 = (analysis.run (disk 1) quiet [] (.ofSize 1)).1 := by
  intro disk analysis c
  have hsettings : ∀ n, SameSettings (.ofRoot "/") (disk 0) (disk n) := by
    rintro (_ | n) path hpath
    · exact ⟨rfl, rfl⟩
    · have hmissing : ∀ path ∈ settingFiles (.ofRoot "/"),
          (disk 0).tree.at? path = none ∧ (disk 1).tree.at? path = none := by
        simp only [← Option.isNone_iff_eq_none]
        decide +kernel
      obtain ⟨hbefore, hafter⟩ := hmissing path hpath
      change (disk 1).isFile path = _ ∧ (disk 1).read path = _
      simp [Volume.isFile, Volume.read, hbefore, hafter]
  have hused : Used (.ofRoot "/") disk 1 1 c := .later (.analyze _ _ _ _ .fresh)
  have hdisk : ∀ path, Versioned disk path := fun path => (dated_rewritten _ _ _ path).versioned
  exact ⟨by decide +kernel, (analyze_eq_fresh (by decide) hdisk hsettings hused _ _ _).1⟩

end Coselect.Analysis
