import Mathlib.Data.List.Basic
import Coselect.Alias.Mapping
import Coselect.Proofs.Alias.Expression
import Coselect.Proofs.Text.Replace

/-! What a mapping makes of a specifier. A pattern without a star takes the specifier that it is; one
with a star takes the specifiers that start and end as it does, without an overlap, and its star stands
for what is left in the middle. The candidates are the targets of the patterns that take the
specifier, in the order of both, with the middle in place of their stars. -/

namespace Coselect.Alias

open Text

variable {m : Mapping} {specifier : String} {pattern front back s middle : List Char}

/-- What the star of a pattern stands for in a specifier that the pattern takes: nothing for a
pattern without a star. -/
def middle? (pattern s : List Char) : Option (List Char) :=
  if '*' ∈ pattern then
    let front := pattern.takeWhile (· ≠ '*')
    let back := (pattern.dropWhile (· ≠ '*')).drop 1
    if front <+: s ∧ back <:+ s ∧ front.length + back.length ≤ s.length then
      some ((s.drop front.length).take (s.length - (front.length + back.length)))
    else none
  else if pattern = s then some [] else none

/-- A target with a text in place of each of its stars. -/
def fillStars (middle : List Char) (target : String) : String :=
  String.ofList (target.toList.flatMap fun c => if c = '*' then middle else [c])

/-! ### One star -/

theorem notMem_around_star (hone : (front ++ '*' :: back).count '*' ≤ 1) :
    '*' ∉ front ∧ '*' ∉ back := by
  rw [List.count_append, List.count_cons_self] at hone
  exact ⟨List.count_eq_zero.1 (by omega), List.count_eq_zero.1 (by omega)⟩

theorem middle?_of_notMem (h : '*' ∉ pattern) :
    middle? pattern s = if pattern = s then some [] else none := if_neg h

theorem middle?_append_star (h : '*' ∉ front) : middle? (front ++ '*' :: back) s =
    if front <+: s ∧ back <:+ s ∧ front.length + back.length ≤ s.length then
      some ((s.drop front.length).take (s.length - (front.length + back.length)))
    else none := by
  have hfront : ∀ c ∈ front, decide (c ≠ '*') = true := fun c hc =>
    decide_eq_true fun e => h (e ▸ hc)
  have hleaves : Leaves (fun c => decide (c ≠ '*')) ('*' :: back) := by simp
  rw [middle?, if_pos (by simp), takeWhile_run hfront hleaves, dropWhile_run hfront hleaves]
  rfl

/-- A text that starts with one part and ends with another behind it has a middle. -/
theorem starts_and_ends_iff :
    front <+: s ∧ back <:+ s ∧ front.length + back.length ≤ s.length ↔
      ∃ middle, s = front ++ middle ++ back := by
  constructor
  · rintro ⟨⟨rest, rfl⟩, hback, hlen⟩
    rw [List.length_append] at hlen
    have hrest : back <:+ rest := List.suffix_of_suffix_length_le hback (List.suffix_append ..) (by omega)
    obtain ⟨middle, rfl⟩ := hrest
    exact ⟨middle, (List.append_assoc ..).symm⟩
  · rintro ⟨middle, rfl⟩
    refine ⟨?_, List.suffix_append .., ?_⟩
    · rw [List.append_assoc]
      exact List.prefix_append ..
    · simp only [List.length_append]
      omega

/-- There is no more than one such middle. -/
theorem middle?_eq_some_iff (h : '*' ∉ front) :
    middle? (front ++ '*' :: back) s = some middle ↔ s = front ++ middle ++ back := by
  have hmiddle : ∀ middle, middle? (front ++ '*' :: back) (front ++ middle ++ back) = some middle := by
    intro middle
    have hlen : (front ++ middle ++ back).length - (front.length + back.length) = middle.length := by
      simp only [List.length_append]
      omega
    rw [middle?_append_star h, if_pos (starts_and_ends_iff.2 ⟨middle, rfl⟩), hlen, List.append_assoc,
      List.drop_left, List.take_left]
  constructor
  · intro hsome
    have hends : front <+: s ∧ back <:+ s ∧ front.length + back.length ≤ s.length := by
      rw [middle?_append_star h] at hsome
      by_contra hends
      simp [hends] at hsome
    obtain ⟨middle', rfl⟩ := starts_and_ends_iff.1 hends
    rw [hmiddle] at hsome
    rw [Option.some.inj hsome]
  · rintro rfl
    exact hmiddle middle

/-! ### What a pattern takes of one line -/

theorem capture?_of_notMem (h : '*' ∉ pattern) (hs : '\n' ∉ s) :
    capture? pattern s = if pattern = s then some [] else none := by
  induction pattern generalizing s with
  | nil =>
    cases s with
    | nil => rfl
    | cons c s =>
      have hc : c ≠ '\n' := (List.ne_of_not_mem_cons hs).symm
      simp [capture?, hc]
  | cons p pattern ih =>
    have hp : p ≠ '*' := (List.ne_of_not_mem_cons h).symm
    cases s with
    | nil => simp [capture?, hp]
    | cons c s =>
      rw [capture?, if_neg (by simpa using hp), ih (List.not_mem_of_not_mem_cons h)
        (List.not_mem_of_not_mem_cons hs)]
      by_cases hc : p = c <;> simp [hc]

theorem takes_of_notMem (h : '*' ∉ pattern) (hs : '\n' ∉ s) : takes pattern s = (pattern == s) := by
  rw [← isSome_capture?, capture?_of_notMem h hs]
  by_cases hpattern : pattern = s <;> simp [hpattern]

/-- Characters before the star are passed one by one. -/
theorem capture?_append (h : '*' ∉ front) :
    capture? (front ++ pattern) s = if front <+: s then capture? pattern (s.drop front.length) else none := by
  induction front generalizing s with
  | nil => simp
  | cons p front ih =>
    have hp : p ≠ '*' := (List.ne_of_not_mem_cons h).symm
    cases s with
    | nil => simp [capture?, hp]
    | cons c s =>
      rw [List.cons_append, capture?, if_neg (by simpa using hp), ih (List.not_mem_of_not_mem_cons h)]
      by_cases hc : p = c <;> simp [List.cons_prefix_cons, hc]

/-- On one line only one leading part leaves a given rest. -/
theorem longest_eq_some_iff (hback : '*' ∉ back) (hs : '\n' ∉ s) :
    longest (takes back) s = some middle ↔ s = middle ++ back := by
  induction s generalizing middle with
  | nil =>
    rw [longest, takes_of_notMem hback hs]
    cases middle <;> cases back <;> simp
  | cons c s ih =>
    have hc : (c == '\n') = false := beq_eq_false_iff_ne.2 (List.ne_of_not_mem_cons hs).symm
    rw [longest, hc, if_neg Bool.false_ne_true, takes_of_notMem hback hs]
    have ih : ∀ part, longest (takes back) s = some part ↔ s = part ++ back :=
      fun _ => ih (List.not_mem_of_not_mem_cons hs)
    cases hlongest : longest (takes back) s with
    | some part =>
      obtain rfl := (ih part).1 hlongest
      rw [← List.cons_append, List.append_cancel_right_eq]
      exact Option.some_inj
    | none =>
      have hnone : ∀ part, s ≠ part ++ back := fun part h => by
        simpa [hlongest] using (ih part).2 h
      cases middle with
      | nil => simpa using eq_comm
      | cons d middle => simpa using fun _ => hnone middle

theorem capture?_eq_middle? (hone : pattern.count '*' ≤ 1) (hs : '\n' ∉ s) :
    capture? pattern s = middle? pattern s := by
  by_cases hstar : '*' ∈ pattern
  · obtain ⟨front, back, rfl⟩ := List.append_of_mem hstar
    obtain ⟨hfront, hback⟩ := notMem_around_star hone
    refine Option.ext fun middle => ?_
    rw [capture?_append hfront, middle?_eq_some_iff hfront]
    constructor
    · intro hcapture
      split at hcapture
      next hstarts =>
        obtain ⟨rest, rfl⟩ := hstarts
        have hrest : '\n' ∉ rest := fun h => hs (List.mem_append_right _ h)
        rw [List.drop_left] at hcapture
        rw [(longest_eq_some_iff hback hrest).1 hcapture, List.append_assoc]
      next => cases hcapture
    · rintro rfl
      rw [List.append_assoc] at hs ⊢
      rw [if_pos (List.prefix_append ..), List.drop_left]
      exact (longest_eq_some_iff hback fun h => hs (List.mem_append_right _ h)).2 rfl
  · rw [capture?_of_notMem hstar hs, middle?_of_notMem hstar]

/-! ### A mapping -/

theorem isSome_middle?_iff {pattern specifier : String} (hone : pattern.toList.count '*' ≤ 1) :
    (middle? pattern.toList specifier.toList).isSome ↔ pattern = specifier ∨
      ∃ front back, pattern.toList = front ++ '*' :: back ∧ front <+: specifier.toList ∧
        back <:+ specifier.toList ∧ front.length + back.length ≤ specifier.toList.length := by
  have hsplit : ∀ {front back}, pattern.toList = front ++ '*' :: back →
      ((middle? pattern.toList specifier.toList).isSome ↔ front <+: specifier.toList ∧
        back <:+ specifier.toList ∧ front.length + back.length ≤ specifier.toList.length) := by
    intro front back hpattern
    rw [hpattern, middle?_append_star (notMem_around_star (hpattern ▸ hone)).1]
    split <;> simp_all
  constructor
  · intro hsome
    by_cases hstar : '*' ∈ pattern.toList
    · obtain ⟨front, back, hpattern⟩ := List.append_of_mem hstar
      exact .inr ⟨front, back, hpattern, (hsplit hpattern).1 hsome⟩
    · rw [middle?_of_notMem hstar] at hsome
      split at hsome
      next heq => exact .inl (String.toList_inj.1 heq)
      next => cases hsome
  · rintro (rfl | ⟨front, back, hpattern, hends⟩)
    · by_cases hstar : '*' ∈ pattern.toList
      · obtain ⟨front, back, hpattern⟩ := List.append_of_mem hstar
        refine (hsplit hpattern).2 (starts_and_ends_iff.2 ⟨['*'], ?_⟩)
        rw [hpattern, List.append_assoc]
        rfl
      · rw [middle?_of_notMem hstar, if_pos rfl]
        rfl
    · exact (hsplit hpattern).2 hends

/-- The expression of a pattern with at most one star captures, on one line, what its star stands for;
a mapping of such patterns takes a specifier where a pattern is the specifier or the specifier starts
and ends as the pattern does around its star, without an overlap; and the candidates are the targets of
these patterns, in the order of both, with the middle in place of every star. -/
theorem star_stands_for_middle (hone : ∀ e ∈ m.paths, e.1.toList.count '*' ≤ 1)
    (hline : '\n' ∉ specifier.toList) :
    (∀ e ∈ m.paths, firstGroup? e.1.toList specifier.toList = middle? e.1.toList specifier.toList) ∧
    (m.takes specifier = true ↔ ∃ e ∈ m.paths, e.1 = specifier ∨ ∃ front back,
      e.1.toList = front ++ '*' :: back ∧ front <+: specifier.toList ∧ back <:+ specifier.toList ∧
        front.length + back.length ≤ specifier.toList.length) ∧
    m.candidates specifier = m.paths.flatMap fun e =>
      (middle? e.1.toList specifier.toList).elim [] fun middle =>
        e.2.map fun target => Path.normalize (Path.combine m.baseDir (fillStars middle target)) := by
  have hcapture : ∀ e ∈ m.paths,
      capture? e.1.toList specifier.toList = middle? e.1.toList specifier.toList :=
    fun e he => capture?_eq_middle? (hone e he) hline
  refine ⟨fun e he => (firstGroup?_eq_capture? _ _).trans (hcapture e he), ?_, ?_⟩
  · rw [Mapping.takes, List.any_eq_true]
    refine exists_congr fun e => and_congr_right fun he => ?_
    rw [← isSome_middle?_iff (hone e he), ← hcapture e he]
  · refine List.flatMap_congr fun e he => ?_
    rw [← hcapture e he]
    dsimp only
    cases capture? e.1.toList specifier.toList with
    | none => rfl
    | some middle =>
      refine List.map_congr_left fun target _ => ?_
      have hstar : "*".toList = ['*'] := rfl
      rw [Text.replace, hstar, replaceFrom_singleton, String.toList_ofList, fillStars]

/-- Patterns with characters that are special in expressions. -/
def escapedMapping : Mapping where
  baseDir := "/ws"
  paths := [("(a|b)\\*.x", ["one/*/*", "two"]), ("(a|b)", ["three"]), ("(*", ["four/*"])]

theorem star_stands_for_middle_escaped :
    (∀ e ∈ escapedMapping.paths, e.1.toList.count '*' ≤ 1) ∧ '\n' ∉ "(a|b)\\c.x".toList ∧
      escapedMapping.takes "(a|b)\\c.x" = true ∧
      escapedMapping.candidates "(a|b)\\c.x" = ["/ws/one/c/c", "/ws/two", "/ws/four/a|b)\\c.x"] := by
  have hone : ∀ e ∈ escapedMapping.paths, e.1.toList.count '*' ≤ 1 := by decide +kernel
  have hline : '\n' ∉ "(a|b)\\c.x".toList := by decide +kernel
  obtain ⟨-, htakes, hcandidates⟩ := star_stands_for_middle hone hline
  refine ⟨hone, hline, htakes.2 ⟨_, List.mem_cons_self, .inr ⟨"(a|b)\\".toList, ".x".toList, ?_⟩⟩, ?_⟩
  · decide +kernel
  · rw [hcandidates]
    decide +kernel

end Coselect.Alias
