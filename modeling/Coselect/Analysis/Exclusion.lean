import Coselect.Analysis.Inquiry
import Coselect.Analysis.Workspace
import Coselect.Graph.Basic
import Coselect.Settings.ExcludesPath

/-! Which files an analysis leaves out: installed packages, what the ignore files name, and
what the user's patterns name, asked in this order. The rules of the ignore files are
loaded on first use, those of a list of patterns when it is first met. -/

namespace Coselect.Analysis

open Coselect.Graph

/-- Directories of version control, which are always ignored along with the ignore files. -/
def versionControl : List String := [".git", ".hg", ".svn"]

def ofRules (e : Except String α) : Work α :=
  match e with
  | .ok a => pure a
  | .error message => Work.fail (.illFormedPattern message)

/-- Where the user's own excludes file is. -/
def globalExcludes (w : Workspace) : Inquiry (Option String) :=
  if w.excludesSetting ≠ "" then pure (some (Settings.excludesPath w.environment w.excludesSetting))
  else Inquiry.firstFile (Settings.usualExcludes w.environment)

/-- The files that hold rules. -/
def ruleFiles (w : Workspace) : Inquiry (List String) := do
  let files :=
    [Path.combine w.root ".gitignore", Path.combineAll w.root [".git", "info", "exclude"]]
  if w.globalExcludes then
    match ← globalExcludes w with
    | some path => return files ++ [path]
    | none => return files
  else return files

/-- Rules with those of some files behind them; files that are missing or unreadable add
none. -/
def addRuleFiles : Ignore.Rules → List String → Work Ignore.Rules
  | rules, [] => pure rules
  | rules, path :: paths => do
    if ← Work.ofInquiry (.isFile path) then
      match ← Work.read? path with
      | none => addRuleFiles rules paths
      | some text => addRuleFiles (← ofRules (rules.add (Text.lines text))) paths
    else addRuleFiles rules paths

/-- The rules of the ignore files as the disk has them. -/
def readRules (w : Workspace) : Work Ignore.Rules := do
  let start ← ofRules (Ignore.Rules.ofLines versionControl)
  addRuleFiles start (← Work.ofInquiry (ruleFiles w))

/-- The shared rules of the ignore files, loaded first if there are none. -/
def loadRules (w : Workspace) : Work Ignore.Rules := do
  match (← Work.ofInquiry .caches).rules with
  | some rules => return rules
  | none =>
    let rules ← readRules w
    let _ ← Work.ofInquiry (.swap fun c => { c with rules := some rules })
    return rules

/-- Fails where texts end in a failure. -/
def complete (t : Settings.Texts) : Work Unit :=
  match t.failure with
  | some f => Work.fail f
  | none => pure ()

/-- The rules of a list of user patterns. -/
def patternRules (patterns : Settings.Texts) : Work Ignore.Rules := do
  match (← Work.ofInquiry .caches).patternRules.get? patterns.items, patterns.failure with
  | some rules, none => return rules
  | _, _ =>
    let _ ← Work.ofInquiry (.swap Caches.makeRoom)
    let rules ← ofRules (Ignore.Rules.ofLines patterns.items)
    complete patterns
    let _ ← Work.ofInquiry (.swap fun c =>
      { c with patternRules := c.patternRules.insert patterns.items rules })
    return rules

/-- Why a file is left out, if it is. -/
def excludeReason (w : Workspace) (x : Settings.Exclusions) (path : String) :
    Work (Option ExcludeReason) := do
  if x.thirdParty && isExternallyManaged path then return some .externallyManaged
  let relative := w.relativePath path
  if x.ignoreFile then
    if (← loadRules w).ignores relative then return some .ignoreRule
  if !x.patterns.isEmpty then
    if (← patternRules x.patterns).ignores relative then return some .userPattern
  return none

end Coselect.Analysis
