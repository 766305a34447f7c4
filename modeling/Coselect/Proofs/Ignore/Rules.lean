import Mathlib.Data.List.TakeWhile
import Coselect.Ignore.Rule
import Coselect.Proofs.Path

/-! Ordered lists of rules. Legible lines give their rules one behind the other, so the rules
of further lines come last; for an entry the last one of these that matches decides, and what stands
before them counts only where none does. -/

namespace Coselect.Text

variable {sep part : List Char} {parts : List (List Char)}

theorem joinWith_concat : joinWith sep (parts ++ [part]) =
    if parts = [] then part else joinWith sep parts ++ sep ++ part := by
  induction parts with
  | nil => rfl
  | cons p parts ih =>
    cases parts with
    | nil => rfl
    | cons p' parts =>
      have hstep : joinWith sep (p :: p' :: parts ++ [part]) =
          p ++ sep ++ joinWith sep (p' :: parts ++ [part]) := rfl
      rw [hstep, ih]
      simp [joinWith]

end Coselect.Text

namespace Coselect.Glob

/-- A glob of plain characters takes one text alone. -/
theorem matchItems_map_char (dotAll : Bool) (cs s : List Char) :
    matchItems dotAll (cs.map .char) s = (cs == s) := by
  induction cs generalizing s with
  | nil => cases s <;> rfl
  | cons c cs ih =>
    cases s with
    | nil => rfl
    | cons c' s => exact congrArg (c == c' && ·) (ih s)

end Coselect.Glob

namespace Coselect.Ignore

open Text

variable {rules more : Rules} {lines : List String} {path : String} {isDirectory : Bool}

/-- A line that a rule can be made of, if only one that is too costly to keep. -/
def Legible (line : String) : Prop := ∀ message, Rule.ofLine line ≠ .error (.illFormed message)

instance : DecidablePred Legible := fun line =>
  match h : Rule.ofLine line with
  | .error (.illFormed message) => .isFalse fun hc => hc message h
  | .error (.tooCostly ..) => .isTrue fun _ hm => by simp [h] at hm
  | .ok _ => .isTrue fun _ hm => by simp [h] at hm

/-- The rule of a line, if it makes one that is kept. -/
def Rule.ofLine? (line : String) : Option Rule :=
  match Rule.ofLine line with
  | .ok r => r
  | .error _ => none

namespace Rules

/-- The rules that some lines make. -/
def made (lines : List String) : Rules := lines.filterMap Rule.ofLine?

theorem made_append (lines more : List String) : made (lines ++ more) = made lines ++ made more :=
  List.filterMap_append

theorem add_of_legible (h : ∀ line ∈ lines, Legible line) (rules : Rules) :
    rules.add lines = .ok (rules ++ made lines) := by
  induction lines generalizing rules with
  | nil => simp [add, made]
  | cons line lines ih =>
    rw [List.forall_mem_cons] at h
    have hmade : made (line :: lines) = (Rule.ofLine? line).toList ++ made lines := by
      rw [made, List.filterMap_cons]
      cases Rule.ofLine? line <;> rfl
    unfold add
    rw [hmade, Rule.ofLine?]
    split
    next hline =>
      rw [ih h.2, hline]
      rfl
    next message hline => exact absurd hline (h.1 message)
    next hline =>
      rw [ih h.2, hline]
      rfl
    next r hline =>
      rw [ih h.2, hline, List.append_assoc]
      rfl

/-- The last of some rules that matches an entry. -/
def last? (rules : Rules) (path : String) (isDirectory : Bool) : Option Rule :=
  rules.reverse.find? (·.matchesEntry path isDirectory)

theorem mem_of_last? {r : Rule} (h : rules.last? path isDirectory = some r) : r ∈ rules :=
  List.mem_reverse.1 (List.mem_of_find?_eq_some h)

theorem decides_append : (rules ++ more).decides path isDirectory =
    match more.last? path isDirectory with
    | some r => !r.negated
    | none => rules.decides path isDirectory := by
  unfold decides last?
  rw [List.reverse_append, List.find?_append]
  cases more.reverse.find? (·.matchesEntry path isDirectory) <;> rfl

/-- Without negated rules any one that matches decides. -/
theorem decides_of_not_negated (h : ∀ r ∈ rules, r.negated = false) :
    rules.decides path isDirectory = rules.any (·.matchesEntry path isDirectory) := by
  unfold decides
  split
  next r hfind =>
    have hr : r ∈ rules := mem_of_last? hfind
    rw [h r hr, Bool.not_false]
    exact (List.any_eq_true.2 ⟨r, hr, List.find?_some hfind⟩).symm
  next hnone =>
    refine (List.any_eq_false.2 fun r hr => ?_).symm
    exact List.find?_eq_none.1 hnone r (List.mem_reverse.2 hr)

theorem ignores_iff : rules.ignores path = true ↔
    ∃ e ∈ ancestry path, rules.decides e.1 e.2 = true := by
  simp [ignores]

end Rules

/-! ### The components of a path -/

theorem lastComponent_join {parts : List String} {part : String} (h : '/' ∉ part.toList) :
    Rule.lastComponent (join "/" (parts ++ [part])) = part := by
  have hpart : ∀ c ∈ part.toList.reverse, (c != '/') = true := by
    intro c hc
    rw [bne_iff_ne]
    rintro rfl
    exact h (List.mem_reverse.1 hc)
  have hlast : (join "/" (parts ++ [part])).toList.reverse.takeWhile (· != '/') =
      part.toList.reverse := by
    rw [join, String.toList_ofList, List.map_append, List.map_singleton, joinWith_concat]
    split
    next => exact List.takeWhile_eq_self_iff.2 hpart
    next =>
      rw [List.reverse_append, List.takeWhile_append_of_pos hpart]
      simp
  rw [Rule.lastComponent, hlast, List.reverse_reverse, String.ofList_toList]

/-- Each component of a path is the last one of the path itself or of a directory above it. -/
theorem exists_ancestry {part : String} (h : part ∈ split '/' path) (hne : part ≠ "") :
    ∃ e ∈ ancestry path, Rule.lastComponent e.1 = part := by
  have hmem : part ∈ (split '/' path).filter (· ≠ "") := by simp [h, hne]
  obtain ⟨i, hi, hget⟩ := List.mem_iff_getElem.1 hmem
  have hslash : '/' ∉ part.toList := by
    obtain ⟨cs, hcs, rfl⟩ := List.mem_map.1 h
    rw [String.toList_ofList]
    exact notMem_of_mem_splitAt hcs
  refine ⟨_, List.mem_map.2 ⟨i, List.mem_range.2 hi, rfl⟩, ?_⟩
  rw [List.take_succ_eq_append_getElem hi, hget]
  exact lastComponent_join hslash

end Coselect.Ignore
