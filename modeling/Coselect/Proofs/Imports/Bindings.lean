import Coselect.Proofs.Imports.Clause
import Coselect.Proofs.Text.Parts

/-! What a clause binds, whatever its text. The body of a clause starts with a name that ends at a comma or
with the clause, has entries between its braces, and shows a star under a name; each of these may be
missing, and what else stands there is passed over as long as its characters are those of clauses. -/

namespace Coselect.Imports

open Text

variable {cs name rest inner after before body clause core : List Char}

/-! ### The body of a clause -/

/-- A text, the same without the blanks at its ends. -/
structure Trims (cs core : List Char) : Prop where
  between : ∃ lead trail, cs = lead ++ core ++ trail ∧ (∀ c ∈ lead, isBlank c = true) ∧
    ∀ c ∈ trail, isBlank c = true
  starts : Leaves isBlank core
  ends : Leaves isBlank core.reverse

theorem trims_trimChars (cs : List Char) : Trims cs (trimChars cs) := by
  obtain ⟨lead, rest, rfl, hlead, hrest⟩ := exists_run isBlank cs
  obtain ⟨trail, core, hcore, htrail, hends⟩ := exists_run isBlank rest.reverse
  obtain rfl : rest = core.reverse ++ trail.reverse := by
    rw [← List.reverse_append, ← hcore, List.reverse_reverse]
  have htrim : trimChars (lead ++ (core.reverse ++ trail.reverse)) = core.reverse := by
    rw [trimChars, trimBy, dropWhile_run hlead hrest, dropEndWhile, hcore, dropWhile_run htrail hends]
  rw [htrim]
  have hbetween : lead ++ (core.reverse ++ trail.reverse) = lead ++ core.reverse ++ trail.reverse :=
    (List.append_assoc _ _ _).symm
  refine ⟨⟨lead, trail.reverse, hbetween, hlead, by simpa using htrail⟩, ?_, by simpa⟩
  by_cases hne : core = []
  · simp [hne]
  · exact (leaves_append_of_ne_nil (by simpa using hne)).1 hrest

/-- What is left of a clause without the blanks at its ends and without the word `type` in front of a
blank or a brace. -/
inductive HasBody (clause : List Char) : List Char → Prop
  | whole {body : List Char} : Trims clause body →
      (∀ c rest, body = "type".toList ++ c :: rest → c ≠ ' ' ∧ c ≠ '\x7b') → HasBody clause body
  | typed {c : Char} {rest body : List Char} : Trims clause ("type".toList ++ c :: rest) →
      c = ' ' ∨ c = '\x7b' → Trims (c :: rest) body → HasBody clause body

theorem hasBody_clauseBody (clause : List Char) : HasBody clause (clauseBody clause) := by
  have htrims := trims_trimChars clause
  unfold clauseBody
  dsimp only
  split
  next c rest hafter =>
    rw [afterStart_eq_some_iff] at hafter
    split
    next hc => exact .typed (hafter ▸ htrims) (by simpa using hc) (trims_trimChars _)
    next hc =>
      refine .whole htrims fun d rest' heq => ?_
      rw [hafter] at heq
      obtain ⟨rfl, -⟩ := List.cons.inj (List.append_cancel_left heq)
      simpa using hc
  next hnone =>
    refine .whole htrims fun c rest heq => ?_
    exact absurd (afterStart_eq_some_iff.2 heq) (hnone c rest)

/-! ### Braces -/

def Unbraced (cs : List Char) : Prop := '\x7b' ∉ cs ∧ '\x7d' ∉ cs

/-- No braces, or one pair of them with a text in it. -/
inductive Balanced : List Char → Option (List Char) → Prop
  | bare {body : List Char} : Unbraced body → Balanced body none
  | pair {before inner after : List Char} : Unbraced before → Unbraced inner → Unbraced after →
      Balanced (before ++ '\x7b' :: (inner ++ '\x7d' :: after)) (some inner)

/-- A closing brace and then an opening one. -/
def Crossed (body : List Char) : Prop := ∃ before inner after, Unbraced before ∧ Unbraced inner ∧
  Unbraced after ∧ body = before ++ '\x7d' :: (inner ++ '\x7b' :: after)

/-- A character that a text has once. -/
theorem exists_of_count_eq_one {c : Char} (h : cs.count c = 1) :
    ∃ before after, cs = before ++ c :: after ∧ c ∉ before ∧ c ∉ after := by
  have hmem : c ∈ cs := List.count_pos_iff.1 (by omega)
  obtain ⟨before, after, rfl, hbefore⟩ := List.eq_append_cons_of_mem hmem
  rw [List.count_append, List.count_cons_self, List.count_eq_zero.2 hbefore] at h
  exact ⟨before, after, rfl, hbefore, List.count_eq_zero.1 (by omega)⟩

theorem count_braces_iff :
    body.count '\x7b' = body.count '\x7d' ∧ body.count '\x7b' ≤ 1 ↔
      (∃ inner, Balanced body inner) ∨ Crossed body := by
  constructor
  · rintro ⟨heq, hle⟩
    by_cases hzero : body.count '\x7b' = 0
    · exact .inl ⟨none, .bare ⟨List.count_eq_zero.1 hzero, List.count_eq_zero.1 (heq ▸ hzero)⟩⟩
    have hopen : body.count '\x7b' = 1 := by omega
    obtain ⟨front, back, rfl, hfront, hback⟩ := exists_of_count_eq_one hopen
    have hclose : front.count '\x7d' + back.count '\x7d' = 1 := by
      simp [List.count_append, List.count_eq_zero.2 hfront, List.count_eq_zero.2 hback] at heq
      omega
    by_cases hlate : '\x7d' ∈ front
    · have hpos := List.count_pos_iff.2 hlate
      have hone : front.count '\x7d' = 1 := by omega
      obtain ⟨before, inner, rfl, hbefore, hinner⟩ := exists_of_count_eq_one hone
      simp at hfront
      refine .inr ⟨before, inner, back, ⟨hfront.1, hbefore⟩, ⟨hfront.2, hinner⟩, ⟨hback, ?_⟩, by simp⟩
      exact List.count_eq_zero.1 (by omega)
    · have hzero := List.count_eq_zero.2 hlate
      have hone : back.count '\x7d' = 1 := by omega
      obtain ⟨inner, after, rfl, hinner, hafter⟩ := exists_of_count_eq_one hone
      simp at hback
      exact .inl ⟨_, .pair ⟨hfront, hlate⟩ ⟨hback.1, hinner⟩ ⟨hback.2, hafter⟩⟩
  · have hcount : ∀ {c d : Char} {before inner after : List Char}, c ≠ d → c ∉ before → c ∉ inner →
        c ∉ after → (before ++ c :: (inner ++ d :: after)).count c = 1 ∧
          (before ++ d :: (inner ++ c :: after)).count c = 1 := by
      intro c d before inner after hne hbefore hinner hafter
      simp [List.count_append, List.count_eq_zero.2 hbefore, List.count_eq_zero.2 hinner,
        List.count_eq_zero.2 hafter, List.count_cons_of_ne hne.symm]
    rintro (⟨_, hbare | ⟨hbefore, hinner, hafter⟩⟩ | ⟨before, inner, after, hbefore, hinner, hafter, rfl⟩)
    · rw [List.count_eq_zero.2 hbare.1, List.count_eq_zero.2 hbare.2]
      omega
    · rw [(hcount (by decide) hbefore.1 hinner.1 hafter.1).1,
        (hcount (by decide) hbefore.2 hinner.2 hafter.2).2]
      omega
    · rw [(hcount (by decide) hbefore.1 hinner.1 hafter.1).2,
        (hcount (by decide) hbefore.2 hinner.2 hafter.2).1]
      omega

theorem isMalformed_iff : isMalformed body = true ↔ (∃ c ∈ body, isClauseChar c = false) ∨
    (¬ ∃ inner, Balanced body inner) ∧ ¬ Crossed body := by
  rw [← not_or, ← count_braces_iff]
  simp only [isMalformed, Bool.or_eq_true, bne_iff_ne, ne_eq, decide_eq_true_eq, Bool.not_eq_true',
    List.all_eq_false]
  constructor
  · rintro ((h | h) | ⟨c, hc, h⟩)
    · exact .inr fun h' => h h'.1
    · exact .inr fun h' => by omega
    · exact .inl ⟨c, hc, by simpa using h⟩
  · rintro (⟨c, hc, h⟩ | h)
    · exact .inr ⟨c, hc, by simp [h]⟩
    · exact .inl (by omega)

/-! ### Names -/

/-- A name at the start of a clause that ends, blanks aside, with the clause or at a comma. -/
def LeadsWith (body name : List Char) : Prop := ∃ blanks rest, body = name ++ (blanks ++ rest) ∧
  name ≠ [] ∧ (∀ c ∈ name, isName c = true) ∧ (∀ c ∈ blanks, isBlank c = true) ∧
  (rest = [] ∨ rest.head? = some ',')

theorem defaultBinding_eq_singleton_iff : defaultBinding body = [name] ↔ LeadsWith body name := by
  constructor
  · intro h
    obtain ⟨first, back, rfl, hfirst, hback⟩ := exists_run isName body
    obtain ⟨blanks, rest, rfl, hblanks, hrest⟩ := exists_run isBlank back
    unfold defaultBinding at h
    rw [takeWhile_run hfirst hback, dropWhile_run hfirst hback, dropWhile_run hblanks hrest] at h
    have hend : first ≠ [] ∧ first = name ∧ (rest = [] ∨ rest.head? = some ',') := by
      cases rest with
      | nil => by_cases hne : first = [] <;> simp_all
      | cons c rest => by_cases hne : first = [] <;> by_cases hc : c = ',' <;> simp_all
    obtain ⟨hne, rfl, hrest⟩ := hend
    exact ⟨blanks, rest, rfl, hne, hfirst, hblanks, hrest⟩
  · rintro ⟨blanks, rest, rfl, hne, hname, hblanks, hrest⟩
    have hleaves : Leaves isBlank rest := by
      rcases hrest with rfl | h
      · exact leaves_nil
      · obtain ⟨rest, rfl⟩ := List.head?_eq_some_iff.1 h
        exact leaves_cons.2 (by decide)
    have hback : Leaves isName (blanks ++ rest) := by
      cases blanks with
      | nil =>
        rcases hrest with rfl | h
        · exact leaves_nil
        · obtain ⟨rest, rfl⟩ := List.head?_eq_some_iff.1 h
          exact leaves_cons.2 (by decide)
      | cons c blanks => exact leaves_cons.2 (isName_of_isBlank (hblanks c List.mem_cons_self))
    unfold defaultBinding
    rw [takeWhile_run hname hback, dropWhile_run hname hback, dropWhile_run hblanks hleaves]
    rcases hrest with rfl | h
    · simp [hne]
    · obtain ⟨rest, rfl⟩ := List.head?_eq_some_iff.1 h
      simp [hne]

theorem exists_defaultBinding (body : List Char) : ∃ default : Option (List Char),
    defaultBinding body = default.toList ∧ ∀ name, default = some name ↔ LeadsWith body name := by
  have hcases : defaultBinding body = (defaultBinding body).head?.toList := by
    unfold defaultBinding
    dsimp only
    split <;> split <;> rfl
  refine ⟨_, hcases, fun name => ?_⟩
  rw [← defaultBinding_eq_singleton_iff]
  constructor
  · intro h
    rw [hcases, h]
    rfl
  · intro h
    rw [h]
    rfl

/-- The entries between the braces: the parts between the commas without the blanks at their ends, empty
ones left out. -/
inductive Entries : Option (List Char) → List (List Char) → Prop
  | none : Entries none []
  | listed {parts : List (List Char)} : parts ≠ [] → (∀ part ∈ parts, ',' ∉ part) →
      Entries (some (joinWith [','] parts)) ((parts.map trimChars).filter (!·.isEmpty))

theorem entries_namedBindings (cs : List Char) : Entries (braced? cs) (namedBindings cs) := by
  unfold namedBindings
  split
  next h => exact h ▸ .none
  next inner h =>
    rw [h]
    have hparts : ∀ part ∈ splitAt ',' inner, ',' ∉ part := fun _ => notMem_of_mem_splitAt
    have hentries := Entries.listed (splitAt_ne_nil ',' inner) hparts
    rwa [joinWith_splitAt] at hentries

/-- What stands behind a star that is shown under a name. -/
def ShownAs (cs name : List Char) : Prop := ∃ gap blanks rest,
  cs = gap ++ ("as".toList ++ (blanks ++ (name ++ rest))) ∧
  (∀ c ∈ gap, isBlank c = true) ∧ (∀ c ∈ blanks, isBlank c = true) ∧ blanks ≠ [] ∧
  (∀ c ∈ name, isName c = true) ∧ name ≠ [] ∧ Leaves isName rest

theorem leaves_of_isName (hname : ∀ c ∈ name, isName c = true) (hne : name ≠ []) :
    Leaves isBlank (name ++ rest) :=
  (leaves_append_of_ne_nil hne).2 (tight_of_isName hne hname).starts

theorem asName?_eq_some_iff : asName? cs = some name ↔ ShownAs cs name := by
  constructor
  · intro h
    obtain ⟨gap, back, rfl, hgap, hback⟩ := exists_run isBlank cs
    unfold asName? at h
    rw [dropWhile_run hgap hback] at h
    split at h
    next => contradiction
    next rest hafter =>
      rw [afterStart_eq_some_iff] at hafter
      obtain ⟨blanks, back, rfl, hblanks, hback⟩ := exists_run isBlank rest
      obtain ⟨first, rest, rfl, hfirst, hrest⟩ := exists_run isName back
      rw [takeWhile_run hblanks hback, dropWhile_run hblanks hback, takeWhile_run hfirst hrest] at h
      by_cases hnone : (blanks.isEmpty || first.isEmpty) = true
      · simp [hnone] at h
      · obtain rfl : first = name := by simpa [hnone] using h
        simp only [Bool.or_eq_true, List.isEmpty_iff, not_or] at hnone
        exact ⟨gap, blanks, rest, by rw [hafter], hgap, hblanks, hnone.1, hfirst, hnone.2, hrest⟩
  · rintro ⟨gap, blanks, rest, rfl, hgap, hblanks, hblank, hname, hne, hrest⟩
    have hword : Leaves isBlank ("as".toList ++ (blanks ++ (name ++ rest))) := leaves_cons.2 (by decide)
    unfold asName?
    rw [dropWhile_run hgap hword, afterStart_append]
    dsimp only
    rw [takeWhile_run hblanks (leaves_of_isName hname hne),
      dropWhile_run hblanks (leaves_of_isName hname hne), takeWhile_run hname hrest]
    simp [hblank, hne]

/-- The name of the first star that is shown under one. -/
def StarName (body name : List Char) : Prop := ∃ before cs, body = before ++ '*' :: cs ∧
  ShownAs cs name ∧ ∀ front back, before = front ++ '*' :: back → ∀ name, ¬ ShownAs (back ++ '*' :: cs) name

theorem starName_of_shownAs (h : ShownAs cs inner) : StarName ('*' :: cs) name ↔ name = inner := by
  constructor
  · rintro ⟨before, behind, heq, hshown, hfirst⟩
    cases before with
    | nil =>
      obtain rfl := (List.cons.inj heq).2
      rw [← asName?_eq_some_iff] at h hshown
      exact Option.some.inj (hshown.symm.trans h)
    | cons c before =>
      obtain ⟨rfl, rfl⟩ := List.cons.inj heq
      exact absurd h (hfirst [] before rfl inner)
  · rintro rfl
    exact ⟨[], cs, rfl, h, by simp⟩

theorem starName_cons {c : Char} (h : c = '*' → ∀ name, ¬ ShownAs cs name) :
    StarName (c :: cs) name ↔ StarName cs name := by
  constructor
  · rintro ⟨before, behind, heq, hshown, hfirst⟩
    cases before with
    | nil =>
      obtain ⟨rfl, rfl⟩ := List.cons.inj heq
      exact absurd hshown (h rfl name)
    | cons d before =>
      obtain ⟨rfl, rfl⟩ := List.cons.inj heq
      exact ⟨before, behind, rfl, hshown,
        fun front back hbefore => hfirst (c :: front) back (by simp [hbefore])⟩
  · rintro ⟨before, behind, rfl, hshown, hfirst⟩
    refine ⟨c :: before, behind, rfl, hshown, fun front back hbefore => ?_⟩
    cases front with
    | nil =>
      obtain ⟨rfl, rfl⟩ := List.cons.inj hbefore
      exact h rfl
    | cons d front => exact hfirst front back (List.cons.inj hbefore).2

theorem exists_namespaceBinding (body : List Char) : ∃ space : Option (List Char),
    namespaceBinding body = space.toList.map ("* as ".toList ++ ·) ∧
      ∀ name, space = some name ↔ StarName body name := by
  induction body with
  | nil =>
    refine ⟨none, rfl, fun name => iff_of_false nofun ?_⟩
    rintro ⟨before, cs, heq, -⟩
    simp at heq
  | cons c cs ih =>
    by_cases hshown : c = '*' ∧ ∃ name, ShownAs cs name
    · obtain ⟨rfl, name, hname⟩ := hshown
      refine ⟨some name, ?_, fun name' => ?_⟩
      · simp [namespaceBinding, asName?_eq_some_iff.2 hname]
      · rw [starName_of_shownAs hname, Option.some.injEq, eq_comm]
    · have hnone : c = '*' → ∀ name, ¬ ShownAs cs name := fun hc name h => hshown ⟨hc, name, h⟩
      obtain ⟨space, hspace, hname⟩ := ih
      refine ⟨space, ?_, fun name => (hname name).trans (starName_cons hnone).symm⟩
      rw [← hspace, namespaceBinding]
      split
      next name h =>
        split at h
        next hc => exact absurd (asName?_eq_some_iff.1 h) (hnone (beq_iff_eq.1 hc) name)
        next => contradiction
      next => rfl

/-! ### Reading a clause -/

theorem Balanced.braced?_eq {o : Option (List Char)} (h : Balanced body o) : braced? body = o := by
  cases h with
  | bare h => exact braced?_of_notMem h.1
  | pair hbefore hinner _ => rw [braced?_append hbefore.1, braced?_open hinner.2]

theorem Balanced.unbraced (h : Balanced body none) : Unbraced body := by
  cases h with
  | bare h => exact h

theorem Crossed.braced?_eq (h : Crossed body) : braced? body = none := by
  obtain ⟨before, inner, after, hbefore, hinner, hafter, rfl⟩ := h
  have hfront : '\x7b' ∉ before ++ '\x7d' :: inner := by simp [hbefore.1, hinner.1]
  have hopen : braced? ('\x7b' :: after) = none := by
    simp [braced?, hafter.2, braced?_of_notMem hafter.1]
  calc braced? (before ++ '\x7d' :: (inner ++ '\x7b' :: after))
      = braced? ((before ++ '\x7d' :: inner) ++ '\x7b' :: after) := by simp
    _ = none := (braced?_append hfront _).trans hopen

/-- A clause is malformed when it has a character that no clause has, or braces other than one pair at
most; but a closing brace in front of an opening one is let through, as if there were none. Any other clause
yields its default binding, the entries between the braces and the namespace. -/
theorem clause_is_read_or_malformed (clause : List Char) :
    HasBody clause (clauseBody clause) ∧
    (clauseNames? clause = none ↔ (∃ c ∈ clauseBody clause, isClauseChar c = false) ∨
      (¬ ∃ inner, Balanced (clauseBody clause) inner) ∧ ¬ Crossed (clauseBody clause)) ∧
    ∀ names, clauseNames? clause = some names → ∃ default inner entries space,
      (∀ name, default = some name ↔ LeadsWith (clauseBody clause) name) ∧
      (Balanced (clauseBody clause) inner ∨ Crossed (clauseBody clause) ∧ inner = none) ∧
      Entries inner entries ∧
      (∀ name, space = some name ↔ StarName (clauseBody clause) name) ∧
      names = (default.toList ++ entries ++ space.toList.map ("* as ".toList ++ ·)).map String.ofList := by
  refine ⟨hasBody_clauseBody clause, ?_, fun names h => ?_⟩
  · rw [← isMalformed_iff]
    simp [clauseNames?]
  · obtain ⟨default, hdefault, hname⟩ := exists_defaultBinding (clauseBody clause)
    obtain ⟨space, hspace, hstar⟩ := exists_namespaceBinding (clauseBody clause)
    have hwell : isMalformed (clauseBody clause) ≠ true := by
      intro hbad
      simp [clauseNames?, hbad] at h
    have hbraces : (∃ inner, Balanced (clauseBody clause) inner) ∨ Crossed (clauseBody clause) := by
      by_contra hnone
      exact hwell (isMalformed_iff.2 (.inr (not_or.1 hnone)))
    have hinner : Balanced (clauseBody clause) (braced? (clauseBody clause)) ∨
        Crossed (clauseBody clause) ∧ braced? (clauseBody clause) = none := by
      rcases hbraces with ⟨inner, hbalanced⟩ | hcrossed
      · exact .inl (hbalanced.braced?_eq ▸ hbalanced)
      · exact .inr ⟨hcrossed, hcrossed.braced?_eq⟩
    refine ⟨default, _, _, space, hname, hinner, entries_namedBindings _, hstar, ?_⟩
    rw [← hdefault, ← hspace]
    simpa [clauseNames?, hwell, eq_comm] using h

/-- Braces the wrong way round are not taken for malformed. -/
theorem crossed_braces_are_read : HasBody "\x7d\x7b".toList "\x7d\x7b".toList ∧
    (∀ inner, ¬ Balanced "\x7d\x7b".toList inner) ∧ clauseNames? "\x7d\x7b".toList = some [] := by
  refine ⟨hasBody_clauseBody "\x7d\x7b".toList, fun inner h => ?_, by decide⟩
  obtain rfl : inner = none := h.braced?_eq.symm.trans (by decide)
  exact h.unbraced.1 (by decide)

end Coselect.Imports
