import Coselect.Analysis.Expand
import Coselect.Proofs.Analysis.Confined

/-! The parts of an analysis and the caches. Loading the aliases leaves the rules alone that decide
what is left out, finding imports leaves all settings alone, and finding tests changes nothing. -/

namespace Coselect.Analysis

variable {T : Terms} {kind : (Caches → Caches) → Prop}

/-- A change of the caches that leaves all rules alone. -/
def SparesRules (f : Caches → Caches) : Prop :=
  ∀ c, (f c).rules = c.rules ∧ (f c).patternRules = c.patternRules

/-- A change of the caches to nothing but the imports. -/
def SparesSettings (f : Caches → Caches) : Prop :=
  ∀ c, (f c).aliases = c.aliases ∧ (f c).rules = c.rules ∧ (f c).patternRules = c.patternRules

theorem confined_ofRules {x : Except String α} : (ofRules x).run.Confined kind := by
  cases x with
  | ok a => exact Work.confined_pure
  | error message => exact Work.confined_fail

theorem confined_complete {t : Settings.Texts} : (complete t).run.Confined kind := by
  unfold complete
  split
  next => exact Work.confined_fail
  next => exact Work.confined_pure

theorem confined_firstFile (paths : List String) : (Inquiry.firstFile paths).Confined kind := by
  induction paths with
  | nil => exact Inquiry.confined_pure
  | cons path paths ih =>
    refine Inquiry.confined_bind Inquiry.confined_ask fun found => ?_
    split
    next => exact Inquiry.confined_pure
    next => exact ih

section Resolve

theorem confined_findAmong (places : List String) : (findAmong places).Confined kind := by
  induction places with
  | nil => exact Inquiry.confined_pure
  | cons place places ih =>
    refine Inquiry.confined_bind (confined_firstFile _) ?_
    rintro (_ | path)
    · exact ih
    · exact Inquiry.confined_pure

theorem confined_readMapping (root path : String) : (readMapping root path).run.Confined kind := by
  refine Work.confined_bind (Work.confined_ofInquiry Inquiry.confined_ask) fun found => ?_
  split
  next =>
    refine Work.confined_bind (Work.confined_read? path) ?_
    rintro (_ | text)
    · exact Work.confined_pure
    · exact Inquiry.confined_pure
  next => exact Work.confined_pure

theorem confined_loadAliases (root mappingFile : String) :
    (loadAliases root mappingFile).run.Confined SparesRules := by
  have hswap : ∀ {f}, SparesRules f → (Work.ofInquiry (.swap f)).run.Confined SparesRules := fun hf =>
    Work.confined_ofInquiry (Inquiry.confined_swap hf)
  refine Work.confined_bind (hswap fun c => ⟨rfl, rfl⟩) fun c => ?_
  split
  next => exact Work.confined_pure
  next =>
    refine Work.confined_bind (confined_readMapping _ _) fun m => ?_
    exact Work.confined_bind (hswap fun c => ⟨rfl, rfl⟩) fun _ => Work.confined_pure

theorem leads_resolve {root mappingFile : String}
    (h : (loadAliases root mappingFile).run.Leads T fun _ => True) (specifier importer : String) :
    (resolve root mappingFile specifier importer).Leads T fun _ => True := by
  refine Inquiry.leads_caches.bind fun c _ => ?_
  split
  next => exact trivial
  next =>
    refine h.bind ?_
    rintro (_ | m) -
    · exact trivial
    · exact (confined_findAmong _).leads fun _ => False.elim

end Resolve

section Rules

theorem confined_ruleFiles (w : Workspace) : (ruleFiles w).Confined kind := by
  unfold ruleFiles
  dsimp only
  split
  next =>
    refine Inquiry.confined_bind ?_ ?_
    · unfold globalExcludes
      split
      next => exact Inquiry.confined_pure
      next => exact confined_firstFile _
    · rintro (_ | path)
      · exact Inquiry.confined_pure
      · exact Inquiry.confined_pure
  next => exact Inquiry.confined_pure

theorem confined_addRuleFiles (rules : Ignore.Rules) (paths : List String) :
    (addRuleFiles rules paths).run.Confined kind := by
  induction paths generalizing rules with
  | nil => exact Work.confined_pure
  | cons path paths ih =>
    refine Work.confined_bind (Work.confined_ofInquiry Inquiry.confined_ask) fun found => ?_
    split
    next =>
      refine Work.confined_bind (Work.confined_read? path) ?_
      rintro (_ | text)
      · exact ih rules
      · exact Work.confined_bind confined_ofRules ih
    next => exact ih rules

theorem confined_readRules (w : Workspace) : (readRules w).run.Confined kind :=
  Work.confined_bind confined_ofRules fun start =>
    Work.confined_bind (Work.confined_ofInquiry (confined_ruleFiles w)) (confined_addRuleFiles start)

end Rules

section Locate

theorem confined_keep {q : String → Inquiry Bool} (hq : ∀ p, (q p).Confined kind) (ps : List String) :
    (keep q ps).Confined kind := by
  induction ps with
  | nil => exact Inquiry.confined_pure
  | cons p ps ih =>
    refine Inquiry.confined_bind (hq p) fun found => ?_
    split
    next => exact Inquiry.confined_bind ih fun _ => Inquiry.confined_pure
    next => exact ih

theorem confined_gather {f : String → Inquiry (List String)} (hf : ∀ p, (f p).Confined kind)
    (ps : List String) : (gather f ps).Confined kind := by
  induction ps with
  | nil => exact Inquiry.confined_pure
  | cons p ps ih =>
    exact Inquiry.confined_bind (hf p) fun _ =>
      Inquiry.confined_bind ih fun _ => Inquiry.confined_pure

theorem confined_subdirectories (directory : String) : (subdirectories directory).Confined kind :=
  Inquiry.confined_bind Inquiry.confined_ask fun _ => confined_keep (fun _ => Inquiry.confined_ask) _

theorem confined_descend (n : Nat) (level : List String) : (descend n level).Confined kind := by
  induction n generalizing level with
  | zero => exact Inquiry.confined_pure
  | succ n ih =>
    refine Inquiry.confined_bind (confined_gather confined_subdirectories level) fun next => ?_
    split
    next => exact Inquiry.confined_pure
    next => exact Inquiry.confined_bind (ih next) fun _ => Inquiry.confined_pure

theorem confined_followSegment (segment : String) (bases : List String) :
    (followSegment segment bases).run.Confined kind := by
  unfold followSegment
  split
  next =>
    refine Work.confined_ofInquiry (confined_gather (fun directory => ?_) bases)
    exact Inquiry.confined_bind (confined_descend _ _) fun _ => Inquiry.confined_pure
  split
  next =>
    refine Work.confined_bind confined_ofRules fun items => ?_
    refine Work.confined_ofInquiry (confined_gather (fun directory => ?_) bases)
    exact Inquiry.confined_bind Inquiry.confined_ask fun _ => Inquiry.confined_pure
  next => exact Work.confined_pure

theorem confined_followSegments (segments bases : List String) :
    (followSegments segments bases).run.Confined kind := by
  induction segments generalizing bases with
  | nil => exact Work.confined_pure
  | cons segment rest ih =>
    cases rest with
    | nil => exact confined_followSegment segment bases
    | cons =>
      refine Work.confined_bind (confined_followSegment segment bases) fun found => ?_
      refine Work.confined_bind
        (Work.confined_ofInquiry (confined_keep (fun _ => Inquiry.confined_ask) found)) fun bases => ?_
      split
      next => exact Work.confined_pure
      next => exact ih bases

theorem confined_globFiles (pattern : String) : (globFiles pattern).run.Confined kind := by
  have hkeep : ∀ paths, (Work.ofInquiry (keep Inquiry.isFile paths)).run.Confined kind := fun paths =>
    Work.confined_ofInquiry (confined_keep (fun _ => Inquiry.confined_ask) paths)
  unfold globFiles
  dsimp only
  split
  next => exact Work.confined_bind (confined_followSegments _ _) fun paths => hkeep _
  next => exact hkeep _

theorem confined_patternTests (root path : String) (patterns : List String) :
    (patternTests root path patterns).run.Confined kind := by
  induction patterns with
  | nil => exact Work.confined_pure
  | cons pattern rest ih =>
    unfold patternTests
    split
    next => exact ih
    next =>
      exact Work.confined_bind (confined_globFiles _) fun _ =>
        Work.confined_bind ih fun _ => Work.confined_pure

theorem confined_locateTests (root path : String) (suffixes : List String)
    (patterns : Settings.Texts) : (locateTests root path suffixes patterns).run.Confined kind := by
  unfold locateTests
  dsimp only
  split
  next => exact Work.confined_pure
  next =>
    refine Work.confined_bind
      (Work.confined_ofInquiry (confined_keep (fun _ => Inquiry.confined_ask) _)) fun usual => ?_
    refine Work.confined_bind (confined_patternTests _ _ _) fun others => ?_
    exact Work.confined_bind confined_complete fun _ => Work.confined_pure

theorem confined_testsOf (w : Workspace) (p : Settings.Policy) (path : String) :
    (testsOf w p path).run.Confined kind := by
  unfold testsOf
  split
  next => exact confined_locateTests _ _ _ _
  next => exact Work.confined_pure

end Locate

section Imports

/-- The statements of a file that is read, kept under a stamp if there is one. -/
def readStatements (path : String) (stamp : Option Disk.Stamp) : Work (List Imports.Statement) := do
  match ← Work.read? path with
  | none => Work.fail (.fault (.unreadable (.str path)))
  | some text => Work.ofInquiry (keepStatements path stamp text)

/-- The statements found in the cache, those of the file if there are none. -/
def foundOrRead (path : String) (t : Disk.Stamp) :
    Option (List Imports.Statement) → Work (List Imports.Statement)
  | some statements => return statements
  | none => readStatements path (some t)

theorem importsOf_eq (w : Workspace) (suffixes : List String) (path : String) :
    importsOf w suffixes path =
      if !isScanned w suffixes path then pure []
      else (do
        match ← Work.ofInquiry (.stamp path) with
        | none => readStatements path none
        | some t => Work.ofInquiry (lookUp path t) >>= foundOrRead path t) := by
  unfold importsOf
  split
  next => rfl
  next =>
    refine bind_congr ?_
    rintro (_ | t)
    · rfl
    · exact bind_congr fun found => by cases found <;> rfl

theorem confined_readStatements (path : String) (stamp : Option Disk.Stamp) :
    (readStatements path stamp).run.Confined SparesSettings := by
  refine Work.confined_bind (Work.confined_read? path) ?_
  rintro (_ | text)
  · exact Work.confined_fail
  refine Work.confined_ofInquiry ?_
  cases stamp with
  | none => exact Inquiry.confined_pure
  | some t =>
    exact Inquiry.confined_bind (Inquiry.confined_swap fun c => ⟨rfl, rfl, rfl⟩) fun _ =>
      Inquiry.confined_pure

theorem confined_importsOf (w : Workspace) (suffixes : List String) (path : String) :
    (importsOf w suffixes path).run.Confined SparesSettings := by
  rw [importsOf_eq]
  split
  next => exact Work.confined_pure
  next =>
    refine Work.confined_bind (Work.confined_ofInquiry Inquiry.confined_ask) ?_
    rintro (_ | t)
    · exact confined_readStatements path none
    · refine Work.confined_bind (Work.confined_ofInquiry (Inquiry.confined_bind
        (Inquiry.confined_swap fun c => ⟨rfl, rfl, rfl⟩) fun _ => Inquiry.confined_pure)) ?_
      rintro (_ | statements)
      · exact confined_readStatements path (some t)
      · exact Work.confined_pure

end Imports

end Coselect.Analysis
