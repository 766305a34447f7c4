import Mathlib.Data.List.Basic
import Coselect.Path

/-! Normal paths. What normalizing leaves of a path are plain components behind one or two
slashes, and normalizing such a path changes nothing. -/

namespace Coselect.Text

variable {sep : Char} {cs part rest : List Char} {parts : List (List Char)}

theorem notMem_of_mem_splitAt (h : part ∈ splitAt sep cs) : sep ∉ part := by
  induction cs generalizing part with
  | nil =>
    simp only [splitAt, List.mem_singleton] at h
    simp [h]
  | cons c cs ih =>
    unfold splitAt at h
    split at h
    next hc =>
      rcases List.mem_cons.1 h with rfl | h
      · simp
      · exact ih h
    next hc =>
      have hne : ¬ sep = c := fun e => hc (beq_iff_eq.2 e.symm)
      split at h
      next =>
        simp only [List.mem_singleton] at h
        simp [h, hne]
      next p ps hs =>
        rcases List.mem_cons.1 h with rfl | h
        · have hp : sep ∉ p := ih (by simp [hs])
          simp [hne, hp]
        · exact ih (by simp [hs, h])

theorem splitAt_of_notMem (h : sep ∉ cs) : splitAt sep cs = [cs] := by
  induction cs with
  | nil => rfl
  | cons c cs ih =>
    have hc : (c == sep) = false := beq_eq_false_iff_ne.2 (List.ne_of_not_mem_cons h).symm
    simp [splitAt, hc, ih (List.not_mem_of_not_mem_cons h)]

theorem splitAt_append_cons (h : sep ∉ part) :
    splitAt sep (part ++ sep :: rest) = part :: splitAt sep rest := by
  induction part with
  | nil => simp [splitAt]
  | cons c part ih =>
    have hc : (c == sep) = false := beq_eq_false_iff_ne.2 (List.ne_of_not_mem_cons h).symm
    simp [splitAt, hc, ih (List.not_mem_of_not_mem_cons h)]

theorem splitAt_joinWith (hne : parts ≠ []) (h : ∀ part ∈ parts, sep ∉ part) :
    splitAt sep (joinWith [sep] parts) = parts := by
  induction parts with
  | nil => contradiction
  | cons part parts ih =>
    have hp := h part List.mem_cons_self
    cases parts with
    | nil => simpa [joinWith] using splitAt_of_notMem hp
    | cons part' parts =>
      have ih' := ih (by simp) fun p hm => h p (List.mem_cons_of_mem _ hm)
      simp only [joinWith, List.append_assoc, List.singleton_append]
      rw [splitAt_append_cons hp, ih']

end Coselect.Text

namespace Coselect.Path

open Text

/-- A component that leads one level down. -/
structure Plain (part : String) : Prop where
  ne_empty : part ≠ ""
  ne_dot : part ≠ "."
  ne_dots : part ≠ ".."
  noSlash : '/' ∉ part.toList

variable {parts acc : List String} {path : String}

/-- One component more, the last one first. -/
def stack (acc : List String) (part : String) : List String :=
  if part = "" ∨ part = "." then acc
  else if part = ".." then acc.drop 1
  else part :: acc

theorem resolveDots_eq : resolveDots parts = (parts.foldl stack []).reverse := rfl

theorem plain_foldl_stack (hs : ∀ part ∈ parts, '/' ∉ part.toList) (hacc : ∀ part ∈ acc, Plain part) :
    ∀ part ∈ parts.foldl stack acc, Plain part := by
  induction parts generalizing acc with
  | nil => exact hacc
  | cons p parts ih =>
    apply ih fun q hq => hs q (List.mem_cons_of_mem _ hq)
    intro q hq
    unfold stack at hq
    split at hq
    next => exact hacc q hq
    next h₁ =>
      split at hq
      next => exact hacc q (List.mem_of_mem_drop hq)
      next h₂ =>
        rcases List.mem_cons.1 hq with rfl | hq
        · rw [not_or] at h₁
          exact ⟨h₁.1, h₁.2, h₂, hs q List.mem_cons_self⟩
        · exact hacc q hq

theorem foldl_stack_of_plain (h : ∀ part ∈ parts, Plain part) :
    parts.foldl stack acc = parts.reverse ++ acc := by
  induction parts generalizing acc with
  | nil => rfl
  | cons p parts ih =>
    have hp := h p List.mem_cons_self
    have hstack : stack acc p = p :: acc := by simp [stack, hp.ne_empty, hp.ne_dot, hp.ne_dots]
    rw [List.foldl_cons, hstack, ih fun q hq => h q (List.mem_cons_of_mem _ hq)]
    simp

theorem plain_resolveDots_split : ∀ part ∈ resolveDots (split '/' path), Plain part := by
  intro part hm
  rw [resolveDots_eq, List.mem_reverse] at hm
  refine plain_foldl_stack ?_ (by simp) part hm
  intro q hq
  obtain ⟨cs, hcs, rfl⟩ := List.mem_map.1 hq
  simpa using notMem_of_mem_splitAt hcs

theorem split_slash_append (s : String) : split '/' ("/" ++ s) = "" :: split '/' s := by
  simp [split, splitAt]

theorem split_join (hne : parts ≠ []) (h : ∀ part ∈ parts, '/' ∉ part.toList) :
    split '/' (join "/" parts) = parts := by
  have hjoin : splitAt '/' (joinWith ['/'] (parts.map String.toList)) = parts.map String.toList := by
    apply splitAt_joinWith
    · simpa using hne
    · simpa using h
  have hsep : "/".toList = ['/'] := rfl
  simp [split, join, hsep, hjoin, Function.comp_def]

theorem resolveDots_empty_cons : resolveDots ("" :: parts) = resolveDots parts := rfl

/-- Normal components come back from the path they make. -/
theorem resolveDots_split_join (h : ∀ part ∈ parts, Plain part) :
    resolveDots (split '/' (join "/" parts)) = parts := by
  by_cases hne : parts = []
  · subst hne
    rfl
  · rw [split_join hne fun part hm => (h part hm).noSlash, resolveDots_eq, foldl_stack_of_plain h]
    simp

/-- The path of some components does not start with a slash of its own. -/
theorem startsWith_slash_join (h : ∀ part ∈ parts, Plain part) :
    startsWith "/" (join "/" parts) = false := by
  cases parts with
  | nil => rfl
  | cons part parts =>
    have hp := h part List.mem_cons_self
    obtain ⟨c, cs, hc⟩ := List.exists_cons_of_ne_nil (l := part.toList) (by simpa using hp.ne_empty)
    have hslash : ('/' == c) = false :=
      beq_eq_false_iff_ne.2 fun e => hp.noSlash (by rw [hc, e]; exact List.mem_cons_self)
    have hhead : ∃ rest, (join "/" (part :: parts)).toList = c :: rest := by
      cases parts <;> simp [join, joinWith, hc]
    obtain ⟨rest, hrest⟩ := hhead
    have hsep : "/".toList = ['/'] := rfl
    simp [startsWith, hrest, hsep, afterStart, hslash]

theorem startsWith_append_append (front part s : String) :
    startsWith (front ++ part) (front ++ s) = startsWith part s := by
  unfold startsWith
  rw [String.toList_append, String.toList_append]
  induction front.toList with
  | nil => rfl
  | cons c cs ih => simpa [afterStart] using ih

theorem leadingSlashes_slash_append {s : String} (h : startsWith "/" s = false) :
    leadingSlashes ("/" ++ s) = "/" := by
  unfold leadingSlashes
  rw [show "//" = "/" ++ "/" from rfl, startsWith_append_append, h]
  rfl

theorem leadingSlashes_slashes_append {s : String} (h : startsWith "/" s = false) :
    leadingSlashes ("/" ++ ("/" ++ s)) = "//" := by
  have hempty : startsWith "" s = true := rfl
  unfold leadingSlashes
  rw [show "///" = "/" ++ ("/" ++ "/") from rfl, startsWith_append_append, startsWith_append_append, h,
    show "//" = "/" ++ ("/" ++ "") from rfl, startsWith_append_append, startsWith_append_append, hempty]
  rfl

/-- One slash or two in front of plain components. -/
theorem normalize_of_plain {slashes : String} (hs : slashes = "/" ∨ slashes = "//")
    (h : ∀ part ∈ parts, Plain part) :
    normalize (slashes ++ join "/" parts) = slashes ++ join "/" parts := by
  have hj := startsWith_slash_join h
  unfold normalize
  rcases hs with rfl | rfl
  · rw [leadingSlashes_slash_append hj, split_slash_append, resolveDots_empty_cons,
      resolveDots_split_join h]
  · rw [show "//" = "/" ++ "/" from rfl, String.append_assoc, leadingSlashes_slashes_append hj,
      split_slash_append, split_slash_append, resolveDots_empty_cons, resolveDots_empty_cons,
      resolveDots_split_join h, ← String.append_assoc]
    rfl

theorem leadingSlashes_eq (path : String) :
    leadingSlashes path = "/" ∨ leadingSlashes path = "//" := by
  unfold leadingSlashes
  split
  · exact .inr rfl
  · exact .inl rfl

@[simp] theorem normalize_normalize (path : String) : normalize (normalize path) = normalize path :=
  normalize_of_plain (leadingSlashes_eq path) plain_resolveDots_split

end Coselect.Path
