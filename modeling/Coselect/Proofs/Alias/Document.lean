import Mathlib.Logic.Basic
import Coselect.Alias.Mapping

/-! Which documents a mapping is read from. The compiler options and the paths must be objects and the
base directory a text, where they are set; null, false, zero and whatever is empty count as not set. Of
all other documents reading fails, because something is no object or, if that is all that is wrong,
because the base directory is no text. -/

namespace Coselect.Alias

open Json

variable {doc : Json} {name root dir : String} {fields options entries : List (String × Json)}
  {m : Mapping}

/-- A field is not there, or its value does not count. -/
def Unset (doc : Json) (name : String) : Prop :=
  ∀ v, doc.field? name = some v → v.isTruthy = false

/-- A field has a value of some kind, or it is not set and has the default. -/
def Setting {α : Type} (doc : Json) (name : String) (make : α → Json) (unset a : α) : Prop :=
  doc.field? name = some (make a) ∨ Unset doc name ∧ a = unset

/-- The shape of a mapping document, with its base directory and the entries of its paths. -/
def Shaped (doc : Json) (dir : String) (entries : List (String × Json)) : Prop :=
  ∃ fields options, doc = .obj fields ∧ Setting doc "compilerOptions" .obj [] options ∧
    Setting (.obj options) "baseUrl" .str "" dir ∧ Setting (.obj options) "paths" .obj [] entries

/-- In a document that has the shape of a mapping otherwise the base directory is set to something that
is no text. -/
def OddBase (doc : Json) : Prop :=
  ∃ fields options entries base, doc = .obj fields ∧ Setting doc "compilerOptions" .obj [] options ∧
    Setting (.obj options) "paths" .obj [] entries ∧ (Json.obj options).field? "baseUrl" = some base ∧
    base.isTruthy = true ∧ ∀ dir, base ≠ .str dir

/-! ### Settings -/

/-- What the setting counts as. -/
def counted (doc : Json) (name : String) (unset : Json) : Json :=
  ((doc.field? name).filter isTruthy).getD unset

theorem counted_eq_iff {α : Type} {make : α → Json} {unset a : α} (hinj : Function.Injective make)
    (htruthy : ∀ a, (make a).isTruthy = false ↔ a = unset) :
    counted doc name (make unset) = make a ↔ Setting doc name make unset a := by
  unfold counted Setting Unset
  cases hfield : doc.field? name with
  | none => simpa using hinj.eq_iff.trans eq_comm
  | some v =>
    cases hv : v.isTruthy with
    | true => simp [Option.filter, hv]
    | false =>
      have hmake : v = make a → a = unset := fun h => (htruthy a).1 (h ▸ hv)
      simp only [Option.filter, hv, Bool.false_eq_true, if_false, Option.getD_none, hinj.eq_iff,
        Option.some.injEq]
      constructor
      · rintro rfl
        exact .inr ⟨by simp [hv], rfl⟩
      · rintro (h | ⟨-, rfl⟩)
        · exact (hmake h).symm
        · rfl

theorem counted_obj_iff :
    counted doc name (.obj []) = .obj fields ↔ Setting doc name .obj [] fields :=
  counted_eq_iff (fun _ _ => Json.obj.inj) fun fields => by cases fields <;> simp [isTruthy]

theorem counted_str_iff : counted doc name (.str "") = .str dir ↔ Setting doc name .str "" dir :=
  counted_eq_iff (fun _ _ => Json.str.inj) fun dir => by simp [isTruthy]

theorem counted_ne_str_iff : (∀ dir, counted doc name (.str "") ≠ .str dir) ↔
    ∃ v, doc.field? name = some v ∧ v.isTruthy = true ∧ ∀ dir, v ≠ .str dir := by
  unfold counted
  cases hfield : doc.field? name with
  | none => simp
  | some v =>
    cases hv : v.isTruthy with
    | true => simp [Option.filter, hv]
    | false => simp [Option.filter, hv]

/-! ### Options -/

/-- Reading on from the options. -/
def ofOptions (root : String) (options : Json) : Except Failure Mapping := do
  let base ← Mapping.setting options "baseUrl"
  let paths ← match (← Mapping.setting options "paths").getD (.obj []) with
    | .obj entries => .ok (entries.filterMap Mapping.targetsOf)
    | _ => .error .notAnObject
  match base.getD (.str "") with
  | .str dir => .ok ⟨Path.normalize (Path.combine root dir), paths⟩
  | _ => .error .notAText

theorem ofOptions_shaped (hpaths : counted (.obj options) "paths" (.obj []) = .obj entries)
    (hbase : counted (.obj options) "baseUrl" (.str "") = .str dir) : ofOptions root (.obj options) =
      .ok ⟨Path.normalize (Path.combine root dir), entries.filterMap Mapping.targetsOf⟩ := by
  rw [counted] at hpaths hbase
  simp [ofOptions, Mapping.setting, bind, Except.bind, hpaths, hbase]

theorem ofOptions_oddBase (hpaths : counted (.obj options) "paths" (.obj []) = .obj entries)
    (hbase : ∀ dir, counted (.obj options) "baseUrl" (.str "") ≠ .str dir) :
    ofOptions root (.obj options) = .error .notAText := by
  simp only [counted] at hpaths hbase
  simp only [ofOptions, Mapping.setting, bind, Except.bind, hpaths]

theorem ofOptions_oddPaths (hpaths : ∀ entries, counted (.obj options) "paths" (.obj []) ≠ .obj entries) :
    ofOptions root (.obj options) = .error .notAnObject := by
  simp only [counted] at hpaths
  simp only [ofOptions, Mapping.setting, bind, Except.bind]

theorem ofOptions_oddOptions {v : Json} (h : ∀ options, v ≠ .obj options) :
    ofOptions root v = .error .notAnObject := by
  cases v with
  | obj options => exact absurd rfl (h options)
  | _ => rfl

/-! ### Documents -/

theorem ofDocument_obj (root : String) (fields : List (String × Json)) :
    Mapping.ofDocument root (.obj fields) =
      ofOptions root (counted (.obj fields) "compilerOptions" (.obj [])) := rfl

theorem ofDocument_of_shaped (root : String) (h : Shaped doc dir entries) :
    Mapping.ofDocument root doc =
      .ok ⟨Path.normalize (Path.combine root dir), entries.filterMap Mapping.targetsOf⟩ := by
  obtain ⟨fields, options, rfl, hoptions, hbase, hpaths⟩ := h
  rw [ofDocument_obj, counted_obj_iff.2 hoptions]
  exact ofOptions_shaped (counted_obj_iff.2 hpaths) (counted_str_iff.2 hbase)

theorem ofDocument_of_oddBase (root : String) (h : OddBase doc) :
    Mapping.ofDocument root doc = .error .notAText := by
  obtain ⟨fields, options, entries, base, rfl, hoptions, hpaths, hbase⟩ := h
  rw [ofDocument_obj, counted_obj_iff.2 hoptions]
  exact ofOptions_oddBase (counted_obj_iff.2 hpaths) (counted_ne_str_iff.2 ⟨base, hbase⟩)

/-- Of every other document something is no object that must be one. -/
theorem ofDocument_of_unshaped (root : String) (hshape : ∀ dir entries, ¬ Shaped doc dir entries)
    (hbase : ¬ OddBase doc) : Mapping.ofDocument root doc = .error .notAnObject := by
  by_cases hdoc : ∃ fields, doc = .obj fields
  · obtain ⟨fields, rfl⟩ := hdoc
    rw [ofDocument_obj]
    by_cases hoptions : ∃ options, counted (.obj fields) "compilerOptions" (.obj []) = .obj options
    · obtain ⟨options, hoptions⟩ := hoptions
      rw [hoptions]
      refine ofOptions_oddPaths fun entries hpaths => ?_
      by_cases hdir : ∃ dir, counted (.obj options) "baseUrl" (.str "") = .str dir
      · obtain ⟨dir, hdir⟩ := hdir
        exact hshape dir entries ⟨fields, options, rfl, counted_obj_iff.1 hoptions,
          counted_str_iff.1 hdir, counted_obj_iff.1 hpaths⟩
      · obtain ⟨base, hodd⟩ := counted_ne_str_iff.1 (not_exists.1 hdir)
        exact hbase ⟨fields, options, entries, base, rfl, counted_obj_iff.1 hoptions,
          counted_obj_iff.1 hpaths, hodd⟩
    · exact ofOptions_oddOptions (not_exists.1 hoptions)
  · cases doc with
    | obj fields => exact absurd ⟨fields, rfl⟩ hdoc
    | _ => rfl

end Coselect.Alias
