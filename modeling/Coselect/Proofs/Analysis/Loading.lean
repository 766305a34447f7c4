import Mathlib.Data.List.Find
import Coselect.Proofs.Analysis.Parts

/-! What an analyzer reads besides the files it scans: the alias mapping and the ignore files. On a
disk that does not change each of them comes to one value, which the answers about a few files
decide. -/

namespace Coselect.Analysis

open Disk

variable {α : Type} {T : Terms} {d d' : Volume} {w : Workspace}

/-- The text of a file, none when it cannot be read. -/
def textOn (d : Volume) (path : String) : Except Failure (Option String) :=
  match d.read path with
  | .ok text => .ok (some text)
  | .error .unreadable => .ok none
  | .error (.unknownEncoding name) => .error (.unknownEncoding name)

def mappingOn (d : Volume) (root path : String) : Except Failure Alias.Mapping :=
  if d.isFile path then do
    match ← textOn d path with
    | none => return .empty root
    | some text => mappingOfText root text
  else return .empty root

/-- The alias mapping of a workspace. -/
def aliasesOn (d : Volume) (w : Workspace) : Except Failure Alias.Mapping :=
  mappingOn d w.root (Path.combine w.root w.mappingFile)

def globalExcludesOn (d : Volume) (w : Workspace) : Option String :=
  if w.excludesSetting ≠ "" then some (Settings.excludesPath w.environment w.excludesSetting)
  else (Settings.usualExcludes w.environment).find? d.isFile

def ruleFilesOn (d : Volume) (w : Workspace) : List String :=
  [Path.combine w.root ".gitignore", Path.combineAll w.root [".git", "info", "exclude"]] ++
    if w.globalExcludes then (globalExcludesOn d w).toList else []

def addRuleFileOn (d : Volume) (rules : Ignore.Rules) (path : String) :
    Except Failure Ignore.Rules :=
  if d.isFile path then do
    match ← textOn d path with
    | none => return rules
    | some text => (rules.add (Text.lines text)).mapError .illFormedPattern
  else return rules

def rulesOn (d : Volume) (w : Workspace) : Except Failure Ignore.Rules := do
  let start ← (Ignore.Rules.ofLines versionControl).mapError .illFormedPattern
  (ruleFilesOn d w).foldlM (addRuleFileOn d) start

/-! ### What is read on a disk -/

/-- The mapping file and the files that may hold rules. -/
def settingFiles (w : Workspace) : List String :=
  Path.combine w.root w.mappingFile ::
    ([Path.combine w.root ".gitignore", Path.combineAll w.root [".git", "info", "exclude"]] ++
      if !w.globalExcludes then []
      else if w.excludesSetting ≠ "" then
        [Settings.excludesPath w.environment w.excludesSetting]
      else Settings.usualExcludes w.environment)

theorem mem_settingFiles_of_mem_ruleFilesOn {path : String} (h : path ∈ ruleFilesOn d w) :
    path ∈ settingFiles w := by
  refine List.mem_cons_of_mem _ ?_
  rcases List.mem_append.1 h with hproject | hglobal
  · exact List.mem_append_left _ hproject
  · refine List.mem_append_right _ ?_
    unfold globalExcludesOn at hglobal
    split at hglobal
    next hon =>
      split at hglobal
      next hset => simpa [hon, hset] using hglobal
      next hunset =>
        rw [Option.mem_toList] at hglobal
        simpa [hon, hunset] using List.mem_of_find?_eq_some hglobal
    next => exact absurd hglobal List.not_mem_nil

/-- The answers about one file are those of a disk. -/
def Terms.TellsOf (T : Terms) (d : Volume) (path : String) : Prop :=
  (∀ r, T.answers (.isFile path) r → r = d.isFile path) ∧
    ∀ r, T.answers (.read path) r → r = d.read path

/-- The questions that reading the settings puts are answered as a disk answers them. -/
def Terms.Tells (T : Terms) (d : Volume) (w : Workspace) : Prop :=
  ∀ path ∈ settingFiles w, T.TellsOf d path

theorem Terms.Shows.tells (h : T.Shows d) (w : Workspace) : T.Tells d w := fun _ _ => ⟨h _, h _⟩

theorem Terms.TellsOf.gives_isFile {path : String} (h : T.TellsOf d path) :
    (Inquiry.isFile path).Gives T (d.isFile path) := Inquiry.gives_ask h.1

theorem gives_ofRules (r : Except String α) :
    (ofRules r).run.Gives T (r.mapError .illFormedPattern) := by
  cases r with
  | ok a => exact Inquiry.gives_pure
  | error message => exact Inquiry.gives_pure

theorem gives_read? {path : String} (h : T.TellsOf d path) :
    (Work.read? path).run.Gives T (textOn d path) := by
  have hread : (Work.ofInquiry (.read path)).run.Gives T (.ok (d.read path)) :=
    Work.gives_ofInquiry (Inquiry.gives_ask h.2)
  unfold textOn
  rcases hd : d.read path with (_ | _) | text
  all_goals
    rw [hd] at hread
    exact Work.gives_bind hread Inquiry.gives_pure

theorem gives_firstFile {paths : List String} (h : ∀ path ∈ paths, T.TellsOf d path) :
    (Inquiry.firstFile paths).Gives T (paths.find? d.isFile) := by
  induction paths with
  | nil => exact Inquiry.gives_pure
  | cons path paths ih =>
    rw [List.forall_mem_cons] at h
    refine h.1.gives_isFile.bind ?_
    rw [List.find?_cons]
    cases d.isFile path with
    | true => exact Inquiry.gives_pure
    | false => exact ih h.2

theorem gives_ruleFiles (h : T.Tells d w) : (ruleFiles w).Gives T (ruleFilesOn d w) := by
  unfold ruleFiles ruleFilesOn
  dsimp only
  split
  next hon =>
    have hglobal : (globalExcludes w).Gives T (globalExcludesOn d w) := by
      unfold globalExcludes globalExcludesOn
      split
      next => exact Inquiry.gives_pure
      next hunset =>
        refine gives_firstFile fun path hpath => h path ?_
        simp [settingFiles, hon, hunset, hpath]
    refine hglobal.bind ?_
    cases globalExcludesOn d w with
    | none => exact Inquiry.gives_pure
    | some path => exact Inquiry.gives_pure
  next => exact Inquiry.gives_pure

theorem gives_addRuleFiles {paths : List String} (h : ∀ path ∈ paths, T.TellsOf d path)
    (rules : Ignore.Rules) :
    (addRuleFiles rules paths).run.Gives T (paths.foldlM (addRuleFileOn d) rules) := by
  induction paths generalizing rules with
  | nil => exact Inquiry.gives_pure
  | cons path paths ih =>
    rw [List.forall_mem_cons] at h
    refine Work.gives_bind (Work.gives_ofInquiry h.1.gives_isFile) ?_
    rw [List.foldlM_cons, addRuleFileOn]
    split
    next =>
      rw [bind_assoc]
      refine Work.gives_bind_value (gives_read? h.1) ?_
      rintro (_ | text) -
      · exact ih h.2 rules
      · exact Work.gives_bind_value (gives_ofRules _) fun rules _ => ih h.2 rules
    next => exact ih h.2 rules

theorem gives_readRules (h : T.Tells d w) : (readRules w).run.Gives T (rulesOn d w) :=
  Work.gives_bind_value (gives_ofRules _) fun _ _ =>
    Work.gives_bind (Work.gives_ofInquiry (gives_ruleFiles h))
      (gives_addRuleFiles (fun path hpath => h path (mem_settingFiles_of_mem_ruleFilesOn hpath)) _)

theorem gives_readMapping {path : String} (h : T.TellsOf d path) (root : String) :
    (readMapping root path).run.Gives T (mappingOn d root path) := by
  refine Work.gives_bind (Work.gives_ofInquiry h.gives_isFile) ?_
  rw [mappingOn]
  split
  next =>
    refine Work.gives_bind_value (gives_read? h) ?_
    rintro (_ | text) -
    · exact Inquiry.gives_pure
    · exact Inquiry.gives_pure
  next => exact Inquiry.gives_pure

theorem gives_readAliases (h : T.Tells d w) :
    (readMapping w.root (Path.combine w.root w.mappingFile)).run.Gives T (aliasesOn d w) :=
  gives_readMapping (h _ (List.mem_cons_self ..)) _

/-- What loading the alias mapping comes to, where reading it comes to `read`. -/
def aliasesInForce (read : Except Failure Alias.Mapping) (c : Caches) :
    Except Failure Alias.Mapping :=
  match c.aliases with
  | some m => .ok m
  | none => read

theorem gives_loadAliases {m : Except Failure Alias.Mapping} (h : T.Tells d w)
    (hm : ∀ c, T.met c → aliasesInForce (aliasesOn d w) c = m)
    (hmay : ∀ a, m = aliasesOn d w → aliasesOn d w = .ok a →
      T.may fun c => { c with aliases := some a }) :
    (loadAliases w.root w.mappingFile).run.Gives T m := by
  refine Work.leads_caches fun c hc => ?_
  have hc := hm c hc
  rw [aliasesInForce] at hc
  split
  next a hsome =>
    rw [hsome] at hc
    rw [← hc]
    exact Inquiry.gives_pure
  next hnone =>
    rw [hnone] at hc
    have hread := gives_readAliases h
    rw [← hc]
    cases ha : aliasesOn d w with
    | error failure => exact Work.gives_bind_error (ha ▸ hread)
    | ok a =>
      exact Work.gives_bind (ha ▸ hread)
        (Work.leads_swap (hmay a hc.symm ha) fun _ _ => Inquiry.gives_pure)

/-! ### Disks with the same settings -/

/-- The files that settings are read from are the same on two disks. -/
def SameSettings (w : Workspace) (d d' : Volume) : Prop :=
  ∀ path ∈ settingFiles w, d'.isFile path = d.isFile path ∧ d'.read path = d.read path

theorem textOn_congr {path : String} (h : d'.read path = d.read path) :
    textOn d' path = textOn d path := by
  rw [textOn, textOn, h]

theorem SameSettings.aliasesOn_eq (h : SameSettings w d d') : aliasesOn d' w = aliasesOn d w := by
  obtain ⟨hfile, hread⟩ := h (Path.combine w.root w.mappingFile) (List.mem_cons_self ..)
  rw [aliasesOn, aliasesOn, mappingOn, mappingOn, hfile, textOn_congr hread]

theorem SameSettings.ruleFilesOn_eq (h : SameSettings w d d') :
    ruleFilesOn d' w = ruleFilesOn d w := by
  unfold ruleFilesOn globalExcludesOn
  split
  next hglobal =>
    split
    next => rfl
    next hunset =>
      rw [List.find?_congr fun path hpath => (h path ?_).1]
      simp [settingFiles, hglobal, hunset, hpath]
  next => rfl

theorem SameSettings.rulesOn_eq (h : SameSettings w d d') : rulesOn d' w = rulesOn d w := by
  have hfold : ∀ (paths : List String) (rules : Ignore.Rules),
      (∀ path ∈ paths, path ∈ settingFiles w) →
      paths.foldlM (addRuleFileOn d') rules = paths.foldlM (addRuleFileOn d) rules := by
    intro paths rules hpaths
    induction paths generalizing rules with
    | nil => rfl
    | cons path paths ih =>
      rw [List.forall_mem_cons] at hpaths
      obtain ⟨hfile, hread⟩ := h path hpaths.1
      rw [List.foldlM_cons, List.foldlM_cons]
      have hadd : addRuleFileOn d' rules path = addRuleFileOn d rules path := by
        rw [addRuleFileOn, addRuleFileOn, hfile, textOn_congr hread]
      rw [hadd]
      exact bind_congr fun rules => ih rules hpaths.2
  rw [rulesOn, rulesOn, h.ruleFilesOn_eq]
  exact bind_congr fun start => hfold _ start fun path => mem_settingFiles_of_mem_ruleFilesOn

end Coselect.Analysis
