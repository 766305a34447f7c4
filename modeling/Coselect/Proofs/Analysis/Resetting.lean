import Coselect.Proofs.Analysis.OnDisk

/-! Resets while an analysis runs. What is dropped is loaded again when it is asked for, but for one
question: whether a bare specifier names a package is told by the aliases that are loaded at that
time, and by none if there are none. So a reset shows where a file imports by an alias, and
nowhere else. -/

namespace Coselect.Analysis

open Disk Coselect.Graph Inquiry Imports

variable {α : Type} {T : Terms} {d : Volume} {signal : List Query → Signal} {resets : Nat → Bool}

namespace Inquiry

/-- The caches, reset or not. -/
def resetIf (b : Bool) (c : Caches) : Caches := if b then c.reset else c

/-- The whole inquiry on a disk that does not change, with resets of the caches while it runs. The
places where others have a turn are numbered: it waits for an answer or pauses, or progress is
reported before it looks for signals. -/
def runResetting (d : Volume) (signal : List Query → Signal) (resets : Nat → Bool) :
    Inquiry α → List Query → Nat → Caches → α × Caches
  | done a, _, _, c => (a, c)
  | ask q k, asked, n, c =>
    runResetting d signal resets (k (d.answer q)) (q :: asked) (n + 1) (resetIf (resets n) c)
  | change f k, asked, n, c => runResetting d signal resets (k c) asked n (f c)
  | look k, asked, n, c =>
    runResetting d signal resets (k (signal asked)) asked (n + 1) (resetIf (resets n) c)
  | pause next, asked, n, c => runResetting d signal resets next asked (n + 1) (resetIf (resets n) c)

/-- Without resets it is the run alone. -/
@[simp] theorem runResetting_never (t : Inquiry α) (asked : List Query) (n : Nat) (c : Caches) :
    t.runResetting d signal (fun _ => false) asked n c = t.run d signal asked c := by
  induction t generalizing asked n c with
  | done a => rfl
  | ask q k ih => exact ih _ _ _ c
  | change f k ih => exact ih c asked n (f c)
  | look k ih => exact ih _ asked _ c
  | pause next ih => exact ih asked _ c

/-- What an inquiry leads to it comes to with resets, where they keep up what it relies on. -/
theorem Leads.runResetting {Q : α → Prop} {t : Inquiry α} {I : Caches → Prop} {c : Caches}
    (h : t.Leads ((Surroundings.alone d signal).under I) Q) (hreset : ∀ c, I c → I c.reset)
    (hc : I c) (asked : List Query) (n : Nat) :
    Q (t.runResetting d signal resets asked n c).1 ∧
      I (t.runResetting d signal resets asked n c).2 := by
  have hturn : ∀ b c, I c → I (resetIf b c) := by
    rintro (_ | _) c hc
    · exact hc
    · exact hreset c hc
  induction t generalizing asked n c with
  | done a => exact ⟨h, hc⟩
  | ask q k ih => exact ih _ (h _ rfl) (hturn _ c hc) _ _
  | change f k ih => exact ih c (h.2 c hc) (h.1 c hc) _ _
  | look k ih => exact ih _ (h _ ⟨asked, rfl⟩) (hturn _ c hc) _ _
  | pause next ih => exact ih h (hturn _ c hc) _ _

end Inquiry

/-- The mapping has no part in the imports of a file. -/
def Unaliased (d : Volume) (w : Workspace) (suffixes : List String) (path : String) : Prop :=
  ∀ m statements, aliasesOn d w = .ok m → importsOn d w suffixes path = .ok statements →
    ∀ s ∈ statements, isRelative s.source = true ∨ m.takes s.source = false

/-- Where others may drop the aliases at any time, an analysis comes to the graph of its root if
none of the files in it imports by an alias. -/
theorem leads_analyze_unaliased {disk : Nat → Volume} {n : Nat} {e : Surroundings} {w : Workspace}
    (hd : (e.under (Drawn (rulesOn (disk n) w) (Told (aliasesOn (disk n) w)) (Stocked disk))).Shows
      (disk n)) (hdisk : ∀ path, Versioned disk path) {config : Settings.Config} {root : String}
    {maxNodes : Nat} (hplain : ∀ p g, config.policy = .ok p →
      graphOn (disk n) w config root maxNodes = .ok g →
      ∀ path ∈ g.nodes.keys, Unaliased (disk n) w p.sourceExtensions path) :
    (analyze w config root maxNodes).run.Leads
      (e.under (Drawn (rulesOn (disk n) w) (Told (aliasesOn (disk n) w)) (Stocked disk)))
      (Expected e.signals (graphOn (disk n) w config root maxNodes)) := by
  cases hp : config.policy with
  | error failure =>
    unfold analyze
    rw [graphOn, hp]
    exact .inl rfl
  | ok p =>
    rw [analyze_eq hp]
    have hload := gives_loadAliases_told (hd.tells w)
    obtain ⟨failure | m, hm⟩ : ∃ aliases, aliasesOn (disk n) w = aliases := ⟨_, rfl⟩
    · refine Work.leads_bind hload (fun _ hok => ?_) fun _ hfailure => .inl ?_
      · cases hok.trans hm
      · obtain rfl := Except.error.inj (hfailure.trans hm)
        exact (graphOn_eq_error hp hm).symm
    · have hgraph : graphOn (disk n) w config root maxNodes = _ := graphOn_eq hp hm
      refine Work.leads_bind hload (fun _ _ => ?_) fun failure hfailure => ?_
      · have hfooting := footing_drawn (p := p) hd hdisk rfl (hload.leads trivial)
        rw [hgraph]
        exact (hold_findingsOn hd hdisk rfl p m).leads_graphOf hfooting _ maxNodes
          fun g hg path hpath => led_of_plain hd hm fun statements =>
            hplain p g hp (hgraph.trans hg) path hpath m statements hm
      · cases hfailure.trans hm

/-- Whatever resets of the caches there are while an analysis runs, it comes to what it comes to
without them and leaves caches that hold nothing but what would be loaded, where no file of the
graph imports by an alias; unless it is stopped, and then the graph says so. -/
theorem analyze_eq_of_resets {w : Workspace} {c : Caches}
    (hc : Drawn (rulesOn d w) (Told (aliasesOn d w)) (Stocked fun _ => d) c)
    (config : Settings.Config) (root : String) (maxNodes : Nat)
    (hplain : ∀ p g, config.policy = .ok p →
      ((analyze w config root maxNodes).run.run d quiet [] c).1 = .ok g →
      ∀ path ∈ g.nodes.keys, Unaliased d w p.sourceExtensions path)
    (signal : List Query → Signal) (resets : Nat → Bool) :
    let r := (analyze w config root maxNodes).run.runResetting d signal resets [] 0 c
    (r.1 = ((analyze w config root maxNodes).run.run d quiet [] c).1 ∨
      ∃ g, r.1 = .ok g ∧ (g.timedOut = true ∧ (∃ asked, (signal asked).expired = true) ∨
        g.cancelled = true ∧ ∃ asked, (signal asked).cancelled = true)) ∧
      Drawn (rulesOn d w) (Told (aliasesOn d w)) (Stocked fun _ => d) r.2 := by
  intro r
  have hdisk : ∀ path, Versioned (fun _ => d) path := fun path _ _ _ _ _ => rfl
  have halone : ((analyze w config root maxNodes).run.run d quiet [] c).1 =
      graphOn d w config root maxNodes := (expected_analyze hc config root maxNodes quiet).eq_of_quiet
  rw [halone] at hplain ⊢
  have hleads := leads_analyze_unaliased (n := 0) (Surroundings.shows_alone d signal) hdisk hplain
  obtain ⟨hr, hc'⟩ := hleads.runResetting (fun _ hc => hc.reset nofun Stocked.clear) hc [] 0
  refine ⟨hr.imp_right ?_, hc'⟩
  rintro ⟨-, g, -, hg, ⟨hflag, _, ⟨asked, rfl⟩, hs⟩ | ⟨hflag, _, ⟨asked, rfl⟩, hs⟩⟩
  · exact ⟨g, hg, .inl ⟨hflag, asked, hs⟩⟩
  · exact ⟨g, hg, .inr ⟨hflag, asked, hs⟩⟩

theorem analyze_eq_of_resets_relative :
    let d := mapped "@/*" "import './b'"
    let w := Workspace.ofRoot "/"
    let analysis := analyze w { includeTests := .bool false } "/a.ts" 10
    (aliasesOn d w).toOption.map (·.takes "@/b") = some true ∧
      (analysis.run.runResetting d quiet (fun _ => true) [] 0 (.ofSize 8)).1 =
        (analysis.run.run d quiet [] (.ofSize 8)).1 := by
  intro d w analysis
  have hplain : ∀ p g, ({ includeTests := .bool false } : Settings.Config).policy = .ok p →
      (analysis.run.run d quiet [] (.ofSize 8)).1 = .ok g →
      ∀ path ∈ g.nodes.keys, Unaliased d w p.sourceExtensions path := by
    intro p g hp hg path hpath m statements _ hstatements s hs
    have hkeys : (analysis.run.run d quiet [] (.ofSize 8)).1.toOption.map (·.nodes.keys) =
        some ["/a.ts", "/b.ts"] := by decide +kernel
    have hrelative : ∀ path ∈ ["/a.ts", "/b.ts"],
        ((({ includeTests := .bool false } : Settings.Config).policy >>= fun p =>
          importsOn d w p.sourceExtensions path).toOption.getD []).all (isRelative ·.source) := by
      decide +kernel
    rw [hg] at hkeys
    have hall := hrelative path (Option.some.inj hkeys ▸ hpath)
    rw [hp] at hall
    change ((importsOn d w p.sourceExtensions path).toOption.getD []).all _ = true at hall
    rw [hstatements] at hall
    exact .inl (List.all_eq_true.1 hall s hs)
  have h := analyze_eq_of_resets (drawn_ofSize (by decide) _) _ _ _ hplain quiet fun _ => true
  refine ⟨by decide +kernel, h.1.resolve_right ?_⟩
  rintro ⟨g, -, ⟨-, _, hexpired⟩ | ⟨-, _, hcancelled⟩⟩
  · exact Bool.false_ne_true hexpired
  · exact Bool.false_ne_true hcancelled

/-- A reset drops an import by an alias: here one that comes while the analysis lets others have a
turn, before it opens the file. -/
theorem reset_drops_aliased_import :
    let analysis := analyze (.ofRoot "/") { includeTests := .bool false } "/a.ts" 10
    let d := mapped "@/*" "import '@/b'"
    ¬ ∀ resets, (analysis.run.runResetting d quiet resets [] 0 (.ofSize 8)).1 =
      (analysis.run.run d quiet [] (.ofSize 8)).1 := by
  intro analysis d h
  have hkeys := congrArg (·.toOption.map (·.nodes.keys)) (h (· == 3))
  revert hkeys
  decide +kernel

end Coselect.Analysis
