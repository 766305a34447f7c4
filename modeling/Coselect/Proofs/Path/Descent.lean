import Coselect.Proofs.Disk.Places
import Coselect.Proofs.Path.Parts

/-! Ways below a directory. A way that does not start at the root is put behind the directory as it
is, so that to go down by components one after the other is to put the way of them all behind it. Where a
way never steps above the directory it starts from, its normal path is what its own components lead to
from there. -/

namespace Coselect.Path

open Text

variable {dir name root way : String} {place parts ways : List String}

/-! ### Combining -/

theorem startsWith_slash_iff {s : String} : startsWith "/" s = true ↔ s.toList.head? = some '/' := by
  simp only [startsWith, Option.isSome_iff_exists, afterStart_eq_some_iff, List.head?_eq_some_iff]
  exact Iff.rfl

/-- A way from a directory: it has characters, and does not start at the root. -/
structure Relative (way : String) : Prop where
  ne_empty : way ≠ ""
  noSlash : startsWith "/" way = false

theorem Plain.relative (h : Plain name) : Relative name := ⟨h.ne_empty, h.startsWith_slash⟩

/-- What a directory puts in front of the ways from it. -/
def lead (dir : String) : String := if dir = "" || endsWith "/" dir then dir else dir ++ "/"

theorem combine_eq_lead_append (h : startsWith "/" way = false) : combine dir way = lead dir ++ way := by
  unfold combine lead
  rw [h, if_neg Bool.false_ne_true]
  split <;> rfl

theorem Relative.append (h : Relative way) (rest : String) : Relative (way ++ rest) := by
  refine ⟨fun hempty => h.ne_empty (String.append_eq_empty_iff.1 hempty).1, ?_⟩
  have hno := h.noSlash
  rw [Bool.eq_false_iff, Ne, startsWith_slash_iff] at hno ⊢
  obtain ⟨c, cs, hcs⟩ := List.exists_cons_of_ne_nil (l := way.toList) (by simpa using h.ne_empty)
  simpa [hcs] using hno

theorem lead_append (h : way ≠ "") : lead (dir ++ way) = dir ++ lead way := by
  unfold lead
  rw [endsWith_slash_append h]
  cases endsWith "/" way <;> simp [h, String.append_assoc]

theorem Relative.lead (h : Relative dir) : Relative (lead dir) := by
  unfold Path.lead
  split
  · exact h
  · exact h.append "/"

theorem Relative.combine (h : Relative dir) (hway : startsWith "/" way = false) :
    Relative (Path.combine dir way) := by
  rw [combine_eq_lead_append hway]
  exact h.lead.append way

theorem combine_combine (hname : Relative name) (hway : startsWith "/" way = false) :
    combine (combine dir name) way = combine dir (combine name way) := by
  rw [combine_eq_lead_append (hname.combine hway).noSlash, combine_eq_lead_append hway,
    combine_eq_lead_append hway, combine_eq_lead_append hname.noSlash, lead_append hname.ne_empty,
    String.append_assoc]

/-- The ways of some components below a directory. -/
theorem combineAll_eq_combine (dir : String) (hne : ways ≠ []) (h : ∀ way ∈ ways, Relative way) :
    combineAll dir ways = combine dir (combineAll "" ways) ∧ Relative (combineAll "" ways) := by
  induction ways generalizing dir with
  | nil => contradiction
  | cons name ways ih =>
    obtain ⟨hname, hways⟩ := List.forall_mem_cons.1 h
    have hempty : combine "" name = name := by
      rw [combine_eq_lead_append hname.noSlash]
      rfl
    by_cases hnil : ways = []
    · subst hnil
      have hone : combineAll "" [name] = name := hempty
      rw [hone]
      exact ⟨rfl, hname⟩
    · have hrest := (ih dir hnil hways).2
      have hhere : combineAll "" (name :: ways) = combine name (combineAll "" ways) := by
        rw [combineAll, List.foldl_cons, hempty]
        exact (ih name hnil hways).1
      rw [hhere]
      refine ⟨?_, hname.combine hrest.noSlash⟩
      rw [← combine_combine hname hrest.noSlash]
      exact (ih (combine dir name) hnil hways).1

theorem combineAll_eq_lead_append (dir : String) (hne : ways ≠ []) (h : ∀ way ∈ ways, Relative way) :
    combineAll dir ways = lead dir ++ combineAll "" ways := by
  obtain ⟨hcombine, hway⟩ := combineAll_eq_combine dir hne h
  rw [hcombine, combine_eq_lead_append hway.noSlash]

/-! ### Roots -/

/-- A normal path with one slash or two before the components of a place. -/
structure Roots (root slashes : String) (place : List String) : Prop where
  one_or_two : slashes = "/" ∨ slashes = "//"
  plain : ∀ part ∈ place, Plain part
  eq : root = slashes ++ join "/" place

variable {slashes r : String}

theorem roots_of_normalize_eq (h : normalize root = root) : ∃ slashes place, Roots root slashes place :=
  ⟨leadingSlashes root, resolveDots (split '/' root), leadingSlashes_eq root, plain_resolveDots_split,
    h.symm⟩

namespace Roots

theorem normalize_eq (h : Roots root slashes place) : normalize root = root := by
  rw [h.eq]
  exact normalize_of_plain h.one_or_two h.plain

theorem combine (h : Roots root slashes place) (hname : Plain name) :
    Roots (Path.combine root name) slashes (place ++ [name]) where
  one_or_two := h.one_or_two
  plain := by simpa [or_imp, forall_and] using ⟨h.plain, hname⟩
  eq := by
    have hone := combine_pathOf h.plain hname
    rcases h.one_or_two with rfl | rfl
    · rw [h.eq]
      exact hone
    · rw [h.eq, show "//" = "/" ++ "/" from rfl, String.append_assoc, String.append_assoc]
      exact (combine_slash_append (pathOf_ne_empty place) hname.startsWith_slash).trans
        (congrArg ("/" ++ ·) hone)

theorem combineAll (h : Roots root slashes place) (hparts : ∀ part ∈ parts, Plain part) :
    Roots (combineAll root parts) slashes (place ++ parts) := by
  induction parts generalizing root place with
  | nil => rwa [List.append_nil]
  | cons part parts ih =>
    obtain ⟨hpart, hparts⟩ := List.forall_mem_cons.1 hparts
    rw [List.append_cons]
    exact ih (h.combine hpart) hparts

theorem relative_join (hne : place ≠ []) (hplain : ∀ part ∈ place, Plain part) :
    Relative (join "/" place) where
  ne_empty hempty := by
    have hsplit := split_join hne fun part hpart => (hplain part hpart).noSlash
    rw [hempty] at hsplit
    have hone : "" ∈ place := by rw [← hsplit]; decide
    exact (hplain "" hone).ne_empty rfl
  noSlash := startsWith_slash_join hplain

theorem endsWith_slash (h : Roots root slashes place) (hne : place ≠ []) : endsWith "/" root = false := by
  have hjoin := (relative_join hne h.plain).ne_empty
  have hpath := endsWith_slash_pathOf hne h.plain
  rw [pathOf, endsWith_slash_append hjoin] at hpath
  rw [h.eq, endsWith_slash_append hjoin, hpath]

theorem ne_empty (h : Roots root slashes place) : root ≠ "" := by
  rw [h.eq, Ne, String.append_eq_empty_iff]
  rcases h.one_or_two with rfl | rfl <;> simp

theorem lead_eq (h : Roots root slashes place) :
    lead root = if place = [] then root else root ++ "/" := by
  split
  next hnil =>
    subst hnil
    rw [h.eq]
    rcases h.one_or_two with rfl | rfl <;> decide
  next hne =>
    unfold lead
    rw [h.endsWith_slash hne]
    simp [h.ne_empty]

theorem resolveDots_split (h : Roots root slashes place) : resolveDots (split '/' root) = place := by
  rw [h.eq]
  rcases h.one_or_two with rfl | rfl
  · rw [split_slash_append, resolveDots_empty_cons, resolveDots_split_join h.plain]
  · rw [show "//" = "/" ++ "/" from rfl, String.append_assoc, split_slash_append, split_slash_append,
      resolveDots_empty_cons, resolveDots_empty_cons, resolveDots_split_join h.plain]

/-- What a normal path puts in front of the ways from it ends in a slash behind its components. -/
theorem lead_eq_append (h : Roots root slashes place) :
    ∃ front, lead root = front ++ "/" ∧ (split '/' front).foldl stack [] = place.reverse := by
  rw [h.lead_eq]
  split
  next hnil =>
    subst hnil
    rw [h.eq]
    rcases h.one_or_two with rfl | rfl
    · exact ⟨"", rfl, by decide⟩
    · exact ⟨"/", rfl, by decide⟩
  next =>
    refine ⟨root, rfl, ?_⟩
    have hplace := h.resolveDots_split
    rw [resolveDots_eq] at hplace
    rw [← hplace, List.reverse_reverse]

end Roots

theorem split_append_slash (front rest : String) :
    split '/' (front ++ "/" ++ rest) = split '/' front ++ split '/' rest := by
  have hslash : "/".toList = ['/'] := rfl
  rw [split, String.toList_append, String.toList_append, hslash, List.append_assoc, List.singleton_append,
    splitAt_append_sep, List.map_append]
  rfl

/-- Components that lead to a place below the one they start from, without a step above it. -/
def staysBelow : Nat → List String → Bool
  | depth, [] => 0 < depth
  | depth, part :: parts =>
    if part = "" ∨ part = "." then staysBelow depth parts
    else if part = ".." then 0 < depth && staysBelow (depth - 1) parts
    else staysBelow (depth + 1) parts

theorem foldl_stack_append (acc base : List String) (h : staysBelow acc.length parts = true) :
    parts.foldl stack (acc ++ base) = parts.foldl stack acc ++ base ∧ parts.foldl stack acc ≠ [] := by
  induction parts generalizing acc with
  | nil => exact ⟨rfl, List.ne_nil_of_length_pos (by simpa [staysBelow] using h)⟩
  | cons part parts ih =>
    rw [List.foldl_cons, List.foldl_cons]
    unfold stack
    unfold staysBelow at h
    split at h
    next hstay => rw [if_pos hstay, if_pos hstay]; exact ih acc h
    next hstay =>
      rw [if_neg hstay, if_neg hstay]
      split at h
      next hup =>
        rw [if_pos hup, if_pos hup]
        obtain ⟨hdepth, hrest⟩ := Bool.and_eq_true_iff.1 h
        obtain ⟨last, acc, rfl⟩ := List.exists_cons_of_length_pos (of_decide_eq_true hdepth)
        exact ih acc hrest
      next hup =>
        rw [if_neg hup, if_neg hup]
        exact ih (part :: acc) h

/-- A relative path to something below the directory it is taken from. -/
structure Below (way : String) : Prop where
  noSlash : startsWith "/" way = false
  stays : staysBelow 0 (split '/' way) = true

theorem Below.resolveDots_ne_nil (h : Below way) : resolveDots (split '/' way) ≠ [] := by
  rw [resolveDots_eq, Ne, List.reverse_eq_nil_iff]
  exact (foldl_stack_append [] [] h.stays).2

theorem leadingSlashes_append (hs : slashes = "/" ∨ slashes = "//") (h : startsWith "/" way = false) :
    leadingSlashes (slashes ++ way) = slashes := by
  rcases hs with rfl | rfl
  · exact leadingSlashes_slash_append h
  · rw [show "//" = "/" ++ "/" from rfl, String.append_assoc]
    exact leadingSlashes_slashes_append h

namespace Roots

/-- A way that stays below a root leads to the components it comes to. -/
theorem normalize_combine (h : Roots root slashes place) (hway : Below way) :
    normalize (Path.combine root way) = Path.combineAll root (resolveDots (split '/' way)) := by
  have hplain : ∀ part ∈ resolveDots (split '/' way), Plain part := plain_resolveDots_split
  have hgoal := h.combineAll hplain
  rw [hgoal.eq, combine_eq_lead_append hway.noSlash, normalize]
  refine congrArg₂ (· ++ ·) ?_ (congrArg (join "/") ?_)
  · rw [h.lead_eq]
    split
    next hnil =>
      have hroot : root = slashes := by rw [h.eq, hnil]; exact String.append_empty
      rw [hroot, leadingSlashes_append h.one_or_two hway.noSlash]
    next hne =>
      rw [h.eq, String.append_assoc, String.append_assoc]
      exact leadingSlashes_append h.one_or_two ((relative_join hne h.plain).append _).noSlash
  · obtain ⟨front, hfront, hplace⟩ := h.lead_eq_append
    have hstack := (foldl_stack_append [] place.reverse hway.stays).1
    rw [List.nil_append] at hstack
    rw [hfront, split_append_slash, resolveDots_eq, List.foldl_append, hplace, hstack, List.reverse_append,
      List.reverse_reverse, resolveDots_eq]

theorem cutAtSlash_combine (h : Roots root slashes place) (hname : Plain name) :
    cutAtSlash (Path.combine root name).toList = ((lead root).toList, name.toList) := by
  obtain ⟨front, hfront, -⟩ := h.lead_eq_append
  have hslash : "/".toList = ['/'] := rfl
  rw [combine_eq_lead_append hname.startsWith_slash, String.toList_append]
  refine cutAtSlash_append hname.noSlash ?_
  rw [hfront, String.toList_append, hslash, List.reverse_append]
  simp

theorem baseName_combine (h : Roots root slashes place) (hname : Plain name) :
    baseName (Path.combine root name) = name := by
  rw [baseName, h.cutAtSlash_combine hname, String.ofList_toList]

theorem directory_combine (h : Roots root slashes place) (hname : Plain name) :
    directory (Path.combine root name) = root := by
  unfold directory
  rw [h.cutAtSlash_combine hname, h.lead_eq]
  split
  next hnil =>
    dsimp only
    rw [h.eq, hnil]
    rcases h.one_or_two with rfl | rfl <;> decide
  next hne =>
    have hstrip : dropEndWhile (· == '/') (root ++ "/").toList = root.toList := by
      have hend := h.endsWith_slash hne
      have hslash : "/".toList = ['/'] := rfl
      rw [Bool.eq_false_iff, Ne, endsWith_slash_iff, List.getLast?_eq_head?_reverse] at hend
      rw [dropEndWhile, String.toList_append, hslash, List.reverse_append]
      have hrest : root.toList.reverse.dropWhile (· == '/') = root.toList.reverse := by
        refine dropWhile_of_leaves ?_
        cases hrev : root.toList.reverse with
        | nil => exact leaves_nil
        | cons c cs => simpa [hrev] using hend
      simp [hrest]
    dsimp only
    rw [hstrip]
    simp [h.ne_empty]

theorem components_eq (h : Roots root slashes place) : components root = place := by
  have hone : components ("/" ++ join "/" place) = place := components_pathOf h.plain
  rw [h.eq]
  rcases h.one_or_two with rfl | rfl
  · exact hone
  · rw [components, show "//" = "/" ++ "/" from rfl, String.append_assoc, split_slash_append,
      List.filter_cons_of_neg (by simp)]
    exact hone

end Roots

theorem Roots.eq_slashes_iff (h : Roots root slashes place) :
    root = "/" ∨ root = "//" ↔ place = [] := by
  constructor
  · intro hroot
    by_contra hne
    have hend := h.endsWith_slash hne
    rcases hroot with rfl | rfl
    · exact absurd hend (by decide)
    · exact absurd hend (by decide)
  · rintro rfl
    have hroot : root = slashes := h.eq.trans String.append_empty
    exact hroot ▸ h.one_or_two

theorem commonPrefix_append (place parts : List String) :
    commonPrefix place (place ++ parts) = place.length := by
  induction place with
  | nil => cases parts <;> rfl
  | cons part place ih => simp [commonPrefix, ih]

namespace Roots

theorem relative_combineAll (h : Roots root slashes place) (hparts : ∀ part ∈ parts, Plain part) :
    relative (Path.combineAll root parts) root = if parts = [] then "." else join "/" parts := by
  have hbelow := h.combineAll hparts
  unfold relative
  rw [h.normalize_eq, hbelow.normalize_eq, h.components_eq, hbelow.components_eq]
  simp [commonPrefix_append, List.isEmpty_iff]

/-- The way back from a directory gives the components that led there. -/
theorem split_relative (h : Roots root slashes place) (hparts : ∀ part ∈ parts, Plain part) :
    (if relative (Path.combineAll root parts) root = "." then []
      else split '/' (relative (Path.combineAll root parts) root)) = parts := by
  rw [h.relative_combineAll hparts]
  by_cases hnil : parts = []
  · simp [hnil]
  have hsplit := split_join hnil fun part hpart => (hparts part hpart).noSlash
  have hdot : join "/" parts ≠ "." := fun heq => by
    rw [heq] at hsplit
    have hmem : "." ∈ parts := by rw [← hsplit]; decide
    exact (hparts "." hmem).ne_dot rfl
  rw [if_neg hnil, if_neg hdot, hsplit]

theorem combineAll_eq_self_iff (h : Roots root slashes place) (hparts : ∀ part ∈ parts, Plain part) :
    Path.combineAll root parts = root ↔ parts = [] := by
  constructor
  · intro heq
    have hcomponents := (h.combineAll hparts).components_eq
    rwa [heq, h.components_eq, List.self_eq_append_right] at hcomponents
  · rintro rfl
    rfl

/-- With a slash behind it a root is at the start of what is below it, unless it is made of slashes. -/
theorem startsWith_combineAll (h : Roots root slashes place) (hne : parts ≠ [])
    (hparts : ∀ part ∈ parts, Plain part) :
    startsWith (root ++ "/") (Path.combineAll root parts) = true ↔ place ≠ [] := by
  have hways : ∀ part ∈ parts, Relative part := fun part hpart => (hparts part hpart).relative
  have hway := (combineAll_eq_combine root hne hways).2
  rw [combineAll_eq_lead_append root hne hways, h.lead_eq]
  split
  next hnil => simp [hnil, startsWith_append_append, hway.noSlash]
  next hplace =>
    have hstart := startsWith_append_append (root ++ "/") "" (Path.combineAll "" parts)
    rw [String.append_empty] at hstart
    rw [hstart]
    exact iff_of_true rfl hplace

end Roots

end Coselect.Path
