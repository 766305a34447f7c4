import Coselect.Proofs.Analysis.OnDisk
import Coselect.Proofs.Ignore.Rules

/-! What the ignore files of a workspace come to. Their lines make rules that stand behind those for
the directories of version control, so a line can only bring such a directory back by being the last
one that matches it. -/

namespace Coselect.Analysis

open Disk Coselect.Graph Ignore

variable {d : Volume} {w : Workspace} {x : Settings.Exclusions} {rules : Except Failure Ignore.Rules}
  {path : String} {isDirectory : Bool}

/-! ### The lines of the ignore files -/

/-- The lines of a file, none where there is no file that can be read. -/
def linesOn (d : Volume) (path : String) : List String :=
  if d.isFile path then
    match d.read path with
    | .ok text => Text.lines text
    | .error _ => []
  else []

/-- The lines of all ignore files, in the order in which their rules count. -/
def ignoreLinesOn (d : Volume) (w : Workspace) : List String :=
  (ruleFilesOn d w).flatMap (linesOn d)

/-- A file whose text can be read is in an encoding. -/
theorem encoding_of_read {text : String} (h : d.read path = .ok text) :
    Text.Encoding.named? d.encoding ≠ none := by
  intro hnone
  unfold Volume.read at h
  rw [hnone] at h
  split at h <;> cases h

theorem encoding_of_unknown {name : String} (h : d.read path = .error (.unknownEncoding name)) :
    Text.Encoding.named? d.encoding = none := by
  unfold Volume.read at h
  split at h
  next =>
    split at h
    next hnone => exact hnone
    next => split at h <;> cases h
  next => cases h

/-- On a disk whose files are in an encoding, a file has its lines added if they are legible. -/
theorem addRuleFileOn_eq (hencoding : Text.Encoding.named? d.encoding ≠ none)
    (h : ∀ line ∈ linesOn d path, Legible line) (rules : Ignore.Rules) :
    addRuleFileOn d rules path = .ok (rules ++ Rules.made (linesOn d path)) := by
  have hnone : rules = rules ++ Rules.made [] := (List.append_nil rules).symm
  unfold addRuleFileOn
  unfold linesOn at h ⊢
  split at h
  next hfile =>
    rw [if_pos hfile, if_pos hfile, textOn]
    cases hread : d.read path with
    | ok text =>
      rw [hread] at h
      exact congrArg (Except.mapError Failure.illFormedPattern) (Rules.add_of_legible h rules)
    | error fault =>
      cases fault with
      | unreadable => exact congrArg Except.ok hnone
      | unknownEncoding name => exact absurd (encoding_of_unknown hread) hencoding
  next hfile =>
    rw [if_neg hfile, if_neg hfile]
    exact congrArg Except.ok hnone

theorem rules_versionControl : Ignore.Rules.ofLines versionControl = .ok (Rules.made versionControl) :=
  Rules.add_of_legible (by decide) []

/-- Ignore files whose lines are legible give their rules behind those for version control. -/
theorem rulesOn_eq (hencoding : Text.Encoding.named? d.encoding ≠ none)
    (h : ∀ line ∈ ignoreLinesOn d w, Legible line) :
    rulesOn d w = .ok (Rules.made versionControl ++ Rules.made (ignoreLinesOn d w)) := by
  have hfiles : ∀ (paths : List String) (rules : Ignore.Rules),
      (∀ line ∈ paths.flatMap (linesOn d), Legible line) →
      paths.foldlM (addRuleFileOn d) rules =
        .ok (rules ++ Rules.made (paths.flatMap (linesOn d))) := by
    intro paths
    induction paths with
    | nil => exact fun rules _ => congrArg Except.ok (List.append_nil rules).symm
    | cons path paths ih =>
      intro rules hlines
      rw [List.flatMap_cons, List.forall_mem_append] at hlines
      rw [List.foldlM_cons, addRuleFileOn_eq hencoding hlines.1]
      refine (ih _ hlines.2).trans ?_
      rw [List.flatMap_cons, Rules.made_append, List.append_assoc]
  rw [rulesOn, rules_versionControl]
  exact hfiles _ _ h

/-! ### Version control -/

/-- The rule of a line that is one plain name. -/
def ruleOfName (name : String) : Rule where
  pattern := name
  negated := false
  directoryOnly := false
  anchored := false
  items := name.toList.map .char

theorem made_versionControl : Rules.made versionControl = versionControl.map ruleOfName := by
  decide

theorem matchesEntry_ruleOfName (name path : String) (isDirectory : Bool) :
    (ruleOfName name).matchesEntry path isDirectory = (Rule.lastComponent path == name) := by
  have hmatch : (ruleOfName name).matchesEntry path isDirectory =
      (name.toList == (Rule.lastComponent path).toList) := Glob.matchItems_map_char ..
  rw [hmatch, Bool.eq_iff_iff, beq_iff_eq, beq_iff_eq, String.toList_inj, eq_comm]

/-- Without further lines an entry is ignored where its name is one of version control. -/
theorem decides_versionControl : (Rules.made versionControl).decides path isDirectory =
    versionControl.contains (Rule.lastComponent path) := by
  rw [made_versionControl, Rules.decides_of_not_negated]
  · simp only [List.any_map, List.contains_eq_any_beq, Function.comp_def, matchesEntry_ruleOfName]
  · intro r hr
    obtain ⟨name, -, rfl⟩ := List.mem_map.1 hr
    rfl

/-- Where the lines of ignore files make some rules, an entry is ignored by the last of these that
matches it, and without such a rule if its name is one of version control. -/
def IgnoredEntry (lines : Ignore.Rules) (entry : String × Bool) : Prop :=
  match lines.last? entry.1 entry.2 with
  | some r => r.negated = false
  | none => Rule.lastComponent entry.1 ∈ versionControl

theorem ignores_behind_versionControl (lines : Ignore.Rules) :
    (Rules.made versionControl ++ lines).ignores path = true ↔
      ∃ e ∈ ancestry path, IgnoredEntry lines e := by
  rw [Rules.ignores_iff]
  refine exists_congr fun e => and_congr_right fun _ => ?_
  rw [Rules.decides_append, IgnoredEntry]
  cases lines.last? e.1 e.2 with
  | some r => simp
  | none => simp [decides_versionControl]

/-- Asked alone with a disk, caches that hold nothing but what would be loaded come to the verdict
on the file. -/
theorem run_excludeReason {A : Option Alias.Mapping → Prop} {J : Imports.Cache Stamp → Prop} {c : Caches}
    (hc : Drawn (rulesOn d w) A J c) (path : String) (signal : List Query → Signal)
    (asked : List Query) : ((excludeReason w x path).run.run d signal asked c).1 =
      verdict w x (rulesOn d w) (compiled x.patterns) path :=
  (gives_excludeReason (Surroundings.shows_still.tells w) path).run hc signal asked

/-- The ignore files leave out what their rules ignore, except that installed files are left out
before. -/
theorem verdict_eq_ignoreRule_iff {rules : Ignore.Rules} {made : Except Failure Ignore.Rules}
    (hx : x.ignoreFile = true) : verdict w x (.ok rules) made path = .ok (some .ignoreRule) ↔
      (x.thirdParty && isExternallyManaged path) = false ∧
        rules.ignores (w.relativePath path) = true := by
  have hpatterns : (if (!x.patterns.isEmpty) = true then do
      if (← made).ignores (w.relativePath path) then return some ExcludeReason.userPattern
      return none
    else return none) ≠ Except.ok (some ExcludeReason.ignoreRule) := by
    split
    next =>
      cases made with
      | error failure => nofun
      | ok rules =>
        dsimp only [bind, Except.bind]
        split <;> nofun
    next => nofun
  unfold verdict
  split
  next hmanaged => exact iff_of_false nofun fun h => Bool.false_ne_true (h.1.symm.trans hmanaged)
  next hmanaged =>
    dsimp only [bind, Except.bind]
    split
    next hignored => exact iff_of_true rfl ⟨Bool.eq_false_iff.2 hmanaged, hignored⟩
    next hignored => exact iff_of_false hpatterns fun h => hignored h.2

/-- Where ignore files are respected and their lines are legible, they leave out the files of which
some directory, or the file itself, is ignored by the last line that matches it, or by its name. So a
directory of version control is left out with all that is in it unless the last line that matches
it is negated. -/
theorem left_out_by_ignore_files {A : Option Alias.Mapping → Prop} {J : Imports.Cache Stamp → Prop}
    {c : Caches} (hc : Drawn (rulesOn d w) A J c)
    (hencoding : Text.Encoding.named? d.encoding ≠ none)
    (hlines : ∀ line ∈ ignoreLinesOn d w, Legible line) (hx : x.ignoreFile = true) (path : String)
    (signal : List Query → Signal) (asked : List Query) :
    let lines := Rules.made (ignoreLinesOn d w)
    let relative := w.relativePath path
    let r := ((excludeReason w x path).run.run d signal asked c).1
    (r = .ok (some .ignoreRule) ↔ (x.thirdParty && isExternallyManaged path) = false ∧
      ∃ e ∈ ancestry relative, IgnoredEntry lines e) ∧
    ∀ name ∈ Text.split '/' relative, name ∈ versionControl →
      ∃ e ∈ ancestry relative, Rule.lastComponent e.1 = name ∧
        ((∀ rule, lines.last? e.1 e.2 = some rule → rule.negated = false) →
          ∃ reason, r = .ok (some reason)) := by
  intro lines relative r
  have hr : r = verdict w x (.ok (Rules.made versionControl ++ lines)) (compiled x.patterns) path := by
    rw [← rulesOn_eq hencoding hlines]
    exact run_excludeReason hc path signal asked
  have hignored : r = .ok (some .ignoreRule) ↔ (x.thirdParty && isExternallyManaged path) = false ∧
      ∃ e ∈ ancestry relative, IgnoredEntry lines e := by
    rw [hr, verdict_eq_ignoreRule_iff hx, ignores_behind_versionControl]
  refine ⟨hignored, fun name hname hcontrol => ?_⟩
  have hne : name ≠ "" := by
    rintro rfl
    exact absurd hcontrol (by decide)
  obtain ⟨e, he, hlast⟩ := exists_ancestry hname hne
  refine ⟨e, he, hlast, fun hkept => ?_⟩
  cases hmanaged : x.thirdParty && isExternallyManaged path with
  | true =>
    refine ⟨.externallyManaged, ?_⟩
    rw [hr, verdict, if_pos hmanaged]
    rfl
  | false =>
    refine ⟨.ignoreRule, hignored.2 ⟨hmanaged, e, he, ?_⟩⟩
    unfold IgnoredEntry
    split
    next rule hrule => exact hkept rule hrule
    next => exact hlast ▸ hcontrol

/-- A directory of version control, next to an ignore file with a negated line for a directory
in it. -/
def hooks : Volume where
  tree := .directory [("ws", .directory
    [(".gitignore", .file (.text "*.log\n!.git/hooks\n") 0),
      (".git", .directory [("hooks", .directory [("a.ts", .file (.text "") 0)])])])]

theorem left_out_by_ignore_files_hooks :
    ((excludeReason (.ofRoot "/ws") {} "/ws/.git/hooks/a.ts").run.run hooks quiet []
      (.ofSize 8)).1 = .ok (some .ignoreRule) := by
  have hlines : ∀ line ∈ ignoreLinesOn hooks (.ofRoot "/ws"), Legible line := by decide +kernel
  have hfirst : ∃ e ∈ ancestry ((Workspace.ofRoot "/ws").relativePath "/ws/.git/hooks/a.ts"),
      IgnoredEntry (Rules.made (ignoreLinesOn hooks (.ofRoot "/ws"))) e :=
    ⟨(".git", true), by decide +kernel, by
      have hlast : (Rules.made (ignoreLinesOn hooks (.ofRoot "/ws"))).last? ".git" true = none := by
        decide +kernel
      rw [IgnoredEntry, hlast]
      decide⟩
  have hc : Drawn (rulesOn hooks (.ofRoot "/ws")) (Told (aliasesOn hooks (.ofRoot "/ws")))
      (Stocked fun _ => hooks) (.ofSize 8) := drawn_ofSize (by decide) _
  exact (left_out_by_ignore_files hc (by decide) hlines rfl _ quiet []).1.2
    ⟨by decide +kernel, hfirst⟩

/-- An ignore file with a negated line for the directory itself. -/
def bringingBack : Volume where
  tree := .directory [("ws", .directory [(".gitignore", .file (.text "!.git\n") 0),
    (".git", .directory [("a.ts", .file (.text "") 0)])])]

theorem version_control_let_through :
    (∀ line ∈ ignoreLinesOn bringingBack (.ofRoot "/ws"), Legible line) ∧
    ¬ ∀ path, (∃ name ∈ Text.split '/' ((Workspace.ofRoot "/ws").relativePath path),
        name ∈ versionControl) →
      ∃ reason, ((excludeReason (.ofRoot "/ws") {} path).run.run bringingBack quiet []
        (.ofSize 8)).1 = .ok (some reason) := by
  refine ⟨by decide +kernel, fun h => ?_⟩
  obtain ⟨reason, hreason⟩ := h "/ws/.git/a.ts" ⟨".git", by decide +kernel, by decide⟩
  have hnone : ((excludeReason (.ofRoot "/ws") {} "/ws/.git/a.ts").run.run bringingBack quiet []
      (.ofSize 8)).1.toOption = some none := by decide +kernel
  rw [hreason] at hnone
  cases hnone

end Coselect.Analysis
