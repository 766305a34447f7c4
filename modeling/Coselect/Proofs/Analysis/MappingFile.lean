import Coselect.Proofs.Alias.Document
import Coselect.Proofs.Analysis.OnDisk
import Coselect.Proofs.Disk.Places

/-! What loading the mapping comes to, from the text of the mapping file. A document that has the shape of
a mapping gives its table, and every other text an empty one. -/

namespace Coselect.Analysis

open Disk Inquiry Alias

variable {d : Volume} {c : Caches} {root mappingFile path text dir : String} {doc : Json}
  {entries : List (String × Json)}

/-! ### Texts -/

theorem mappingOfText_of_error {failure : Json.ReadError} (h : Json.readRelaxed text = .error failure) :
    mappingOfText root text = .ok (.empty root) := by
  rw [mappingOfText, h]

theorem mappingOfText_of_shaped (hread : Json.readRelaxed text = .ok doc) (h : Shaped doc dir entries) :
    mappingOfText root text =
      .ok ⟨Path.normalize (Path.combine root dir), entries.filterMap Mapping.targetsOf⟩ := by
  simp only [mappingOfText, hread, ofDocument_of_shaped root h]

theorem mappingOfText_of_unshaped (hread : Json.readRelaxed text = .ok doc)
    (hshape : ∀ dir entries, ¬ Shaped doc dir entries) (hbase : ¬ OddBase doc) :
    mappingOfText root text = .ok (.empty root) := by
  simp only [mappingOfText, hread, ofDocument_of_unshaped root hshape hbase]

theorem mappingOfText_of_oddBase (hread : Json.readRelaxed text = .ok doc) (h : OddBase doc) :
    mappingOfText root text = .error .notAText := by
  simp only [mappingOfText, hread, ofDocument_of_oddBase root h]

/-! ### The file -/

theorem isFile_of_read (h : d.read path = .ok text) : d.isFile path = true := by
  unfold Volume.read at h
  split at h
  next content modified _ hat => exact Volume.isFile_iff.2 ⟨content, modified, hat⟩
  next => cases h

theorem mappingOn_of_read (h : d.read path = .ok text) : mappingOn d root path = mappingOfText root text := by
  rw [mappingOn, if_pos (isFile_of_read h), textOn, h]
  rfl

/-- Where nothing is loaded, loading comes to what the text of the file does, and what it comes to is
kept. -/
theorem run_loadAliases (signal : List Query → Signal) (asked : List Query) (hnone : c.aliases = none)
    (hread : d.read (Path.combine root mappingFile) = .ok text) :
    ((loadAliases root mappingFile).run.run d signal asked c).1 = mappingOfText root text ∧
      ∀ m, mappingOfText root text = .ok m →
        ((loadAliases root mappingFile).run.run d signal asked c).2.aliases = some m := by
  have htext : aliasesOn d { root, mappingFile } = mappingOfText root text := mappingOn_of_read hread
  have hgives : (loadAliases root mappingFile).run.Gives
      ((Surroundings.still d).under fun c => Told (mappingOfText root text) c.aliases)
      (mappingOfText root text) := by
    rw [← htext]
    refine gives_loadAliases (w := { root, mappingFile }) (Surroundings.shows_still.tells _) ?_ ?_
    · intro c hc
      cases hloaded : c.aliases with
      | none => rw [aliasesInForce, hloaded]
      | some m => rw [aliasesInForce, hloaded, hc m hloaded]
    · exact fun m _ hm c _ => .of_eq hm
  have hstart : Told (mappingOfText root text) c.aliases := fun m hm => by simp [hnone] at hm
  have hrun := hgives.run hstart signal asked
  exact ⟨hrun, fun m hm => (ends_loadAliases root mappingFile c).run signal asked m (hrun.trans hm)⟩

/-- Loading the mapping from a file with a text comes to a mapping, and keeps it, unless the base
directory is set to something that is no text. A document that has the shape of a mapping gives the
entries of its paths whose value is a list, in their order, and its base directory seen from the root;
any other text gives an empty mapping at the root. -/
theorem loadAliases_of_text (d : Volume) (root mappingFile : String) (signal : List Query → Signal)
    (asked : List Query) (hnone : c.aliases = none)
    (hread : d.read (Path.combine root mappingFile) = .ok text)
    (hbase : ∀ doc, Json.readRelaxed text = .ok doc → ¬ OddBase doc) :
    ∃ m, ((loadAliases root mappingFile).run.run d signal asked c).1 = .ok m ∧
      ((loadAliases root mappingFile).run.run d signal asked c).2.aliases = some m ∧
      (∀ doc dir entries, Json.readRelaxed text = .ok doc → Shaped doc dir entries →
        m = ⟨Path.normalize (Path.combine root dir), entries.filterMap Mapping.targetsOf⟩) ∧
      ((∀ doc dir entries, Json.readRelaxed text = .ok doc → ¬ Shaped doc dir entries) →
        m = .empty root) := by
  obtain ⟨hrun, hkept⟩ := run_loadAliases signal asked hnone hread
  have hresult : ∀ m, mappingOfText root text = .ok m →
      ((loadAliases root mappingFile).run.run d signal asked c).1 = .ok m ∧
        ((loadAliases root mappingFile).run.run d signal asked c).2.aliases = some m :=
    fun m hm => ⟨hrun.trans hm, hkept m hm⟩
  cases hdoc : Json.readRelaxed text with
  | error failure =>
    obtain ⟨hok, haliases⟩ := hresult _ (mappingOfText_of_error hdoc)
    exact ⟨_, hok, haliases, nofun, fun _ => rfl⟩
  | ok doc =>
    by_cases hshape : ∃ dir entries, Shaped doc dir entries
    · obtain ⟨dir, entries, hshape⟩ := hshape
      have hm : mappingOfText root text = _ := mappingOfText_of_shaped hdoc hshape
      obtain ⟨hok, haliases⟩ := hresult _ hm
      refine ⟨_, hok, haliases, ?_, fun h => absurd hshape (h doc dir entries rfl)⟩
      rintro _ dir' entries' ⟨⟩ hshape'
      exact Except.ok.inj (hm.symm.trans (mappingOfText_of_shaped hdoc hshape'))
    · have hnot : ∀ dir entries, ¬ Shaped doc dir entries := by simpa using hshape
      obtain ⟨hok, haliases⟩ := hresult _ (mappingOfText_of_unshaped hdoc hnot (hbase doc hdoc))
      refine ⟨_, hok, haliases, ?_, fun _ => rfl⟩
      rintro _ dir entries ⟨⟩ hshape'
      exact absurd hshape' (hnot dir entries)

/-- A disk with a mapping file. -/
def volumeWith (text : String) : Volume where
  tree := .directory [("ws", .directory [("tsconfig.json", .file (.text text) 0)])]

/-- What is loaded from such a file. -/
def loadedFrom (text : String) : Except Failure Mapping :=
  ((loadAliases "/ws" "tsconfig.json").run.run (volumeWith text) (fun _ => {}) [] (.ofSize 1)).1

/-- Two patterns, one of them without a list of targets. -/
def twoPaths : String :=
  "\x7b\"compilerOptions\":\x7b\"baseUrl\":\"src\", //\n\"paths\":\x7b\"@/*\":[\"*\"],\"~\":\"x\",\x7d\x7d\x7d"

theorem loadAliases_of_text_twoPaths : (Caches.ofSize 1).aliases = none ∧
    (volumeWith twoPaths).read (Path.combine "/ws" "tsconfig.json") = .ok twoPaths ∧
    (∀ doc, Json.readRelaxed twoPaths = .ok doc → ¬ OddBase doc) ∧
    ∃ m, loadedFrom twoPaths = .ok m ∧ m.baseDir = "/ws/src" ∧ m.paths = [("@/*", ["*"])] := by
  have hread : (volumeWith twoPaths).read (Path.combine "/ws" "tsconfig.json") = .ok twoPaths := by
    decide +kernel
  have hvalue : (loadedFrom twoPaths).toOption.map (fun m => (m.baseDir, m.paths)) =
      some ("/ws/src", [("@/*", ["*"])]) := by decide +kernel
  have hbase : ∀ doc, Json.readRelaxed twoPaths = .ok doc → ¬ OddBase doc := by
    intro doc hdoc hodd
    rw [loadedFrom, (run_loadAliases _ _ rfl hread).1, mappingOfText_of_oddBase hdoc hodd] at hvalue
    cases hvalue
  obtain ⟨m, hm, -⟩ := loadAliases_of_text (volumeWith twoPaths) "/ws" "tsconfig.json" (fun _ => {}) []
    (c := .ofSize 1) rfl hread hbase
  rw [loadedFrom, hm] at hvalue
  exact ⟨rfl, hread, hbase, m, hm, Prod.mk.inj (Option.some.inj hvalue)⟩

/-- Options whose base directory is null. -/
def nullBase : String :=
  "\x7b\"compilerOptions\":\x7b\"baseUrl\":null,\"paths\":\x7b\"@/*\":[\"*\"]\x7d\x7d\x7d"

def isNull : Json → Bool
  | .null => true
  | _ => false

theorem eq_null_of_isNull {v : Json} (h : isNull v = true) : v = .null := by
  cases v with
  | null => rfl
  | _ => exact absurd h Bool.false_ne_true

/-- A base directory that is null is neither a text nor absent, and yet the paths are taken. -/
theorem null_base_keeps_paths :
    ∃ doc options m, Json.readRelaxed nullBase = .ok doc ∧
      doc.field? "compilerOptions" = some options ∧ options.field? "baseUrl" = some .null ∧
      loadedFrom nullBase = .ok m ∧ m.paths = [("@/*", ["*"])] := by
  have hshape : (Json.readRelaxed nullBase).toOption.map (fun doc =>
      (doc.field? "compilerOptions").any fun options => (options.field? "baseUrl").any isNull) =
        some true := by decide +kernel
  have hnull : (loadedFrom nullBase).toOption.map (·.paths) = some [("@/*", ["*"])] := by decide +kernel
  obtain ⟨doc, hdoc, hoptions⟩ := exists_ok_of_map hshape
  obtain ⟨options, hoptions, hbase⟩ := (Option.any_eq_true ..).1 hoptions
  obtain ⟨base, hbase, hisNull⟩ := (Option.any_eq_true ..).1 hbase
  obtain ⟨m, hm, hpaths⟩ := exists_ok_of_map hnull
  rw [eq_null_of_isNull hisNull] at hbase
  exact ⟨doc, options, m, hdoc, hoptions, hbase, hm, hpaths⟩

/-- Where the base directory is set to something that is no text, loading fails. -/
theorem loadAliases_of_oddBase (signal : List Query → Signal) (asked : List Query)
    (hnone : c.aliases = none) (hread : d.read (Path.combine root mappingFile) = .ok text)
    (hdoc : Json.readRelaxed text = .ok doc) (h : OddBase doc) :
    ((loadAliases root mappingFile).run.run d signal asked c).1 = .error .notAText :=
  (run_loadAliases signal asked hnone hread).1.trans (mappingOfText_of_oddBase hdoc h)

/-- A number as the base directory. -/
example : (loadedFrom "\x7b\"compilerOptions\":\x7b\"baseUrl\":5\x7d\x7d").toOption.isNone = true := by
  decide +kernel

end Coselect.Analysis
