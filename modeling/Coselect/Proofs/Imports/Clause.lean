import Coselect.Proofs.Imports.Written
import Coselect.Proofs.Path

/-! The names of a written clause. A clause that is well formed yields its default binding, then the
named ones, then the namespace. -/

namespace Coselect.Imports

open Text

variable {cs name rest inner : List Char}

theorem Identifier.tight (n : Identifier) : Tight n.name := tight_of_isName n.ne_nil n.isName_of_mem

theorem Binding.tight (b : Binding) : Tight b.text := by
  cases b with
  | plain n => exact n.tight
  | renamed n m => exact n.tight.append m.tight

theorem tight_braces (bs : List Binding) : Tight (braces bs) :=
  ⟨by simp [braces], by simp [braces]; decide, by simp [braces]; decide⟩

theorem tight_starAs (n : Identifier) : Tight (starAs n) := by
  have hstar : Tight ['*'] := ⟨by simp, by simp; decide, by simp; decide⟩
  have h : Tight (['*'] ++ " as ".toList ++ n.name) := hstar.append n.tight
  exact h

theorem Clause.tight (clause : Clause) : Tight clause.text := by
  cases clause with
  | default n => exact n.tight
  | named bs => exact tight_braces bs
  | star n => exact tight_starAs n
  | defaultNamed n bs => exact n.tight.append (tight_braces bs)
  | defaultStar n m => exact n.tight.append (tight_starAs m)

/-- A clause starts with its default binding and goes on with nothing, a comma, a brace or a
star. -/
theorem Clause.exists_text_eq (clause : Clause) :
    ∃ name rest, clause.text = name ++ rest ∧ (∀ c ∈ name, isName c = true) ∧ Leaves isName rest ∧
      (rest = [] ∨ rest.head? = some ',' ∨ name = []) := by
  cases clause with
  | default n => exact ⟨n.name, [], by simp [text], n.isName_of_mem, leaves_nil, .inl rfl⟩
  | named bs => exact ⟨[], braces bs, rfl, by simp, by simp [braces]; decide, .inr (.inr rfl)⟩
  | star n => exact ⟨[], starAs n, rfl, by simp, by simp [starAs_eq]; decide, .inr (.inr rfl)⟩
  | defaultNamed n bs =>
    exact ⟨n.name, ", ".toList ++ braces bs, by simp [text], n.isName_of_mem, by simp; decide,
      .inr (.inl rfl)⟩
  | defaultStar n m =>
    exact ⟨n.name, ", ".toList ++ starAs m, by simp [text], n.isName_of_mem, by simp; decide,
      .inr (.inl rfl)⟩

/-- Nothing, a comma or a brace or star without a default binding ends the first name. -/
theorem clauseBody_eq (ht : Tight (name ++ rest)) (hname : ∀ c ∈ name, isName c = true)
    (hrest : Leaves isName rest) (h : rest = [] ∨ rest.head? = some ',' ∨ name = []) :
    clauseBody (name ++ rest) = name ++ rest := by
  unfold clauseBody
  rw [ht.trimChars_eq]
  dsimp only
  split
  next c after hafter =>
    rw [afterStart_eq_some_iff] at hafter
    by_cases hc : (c == ' ' || c == '\x7b') = true
    · -- The word would end at the blank or brace, and so be the whole first name.
      have hleaves : Leaves isName (c :: after) := by
        simp only [Bool.or_eq_true, beq_iff_eq] at hc
        rcases hc with rfl | rfl <;> exact leaves_cons.2 (by decide)
      have htype : ∀ d ∈ "type".toList, isName d = true := by decide
      have hsame : name = "type".toList := by
        rw [← takeWhile_run hname hrest, hafter, takeWhile_run htype hleaves]
      have hbehind : rest = c :: after := by
        rw [← dropWhile_run hname hrest, hafter, dropWhile_run htype hleaves]
      subst hsame hbehind
      simp only [Bool.or_eq_true, beq_iff_eq] at hc
      rcases hc with rfl | rfl <;> simp at h
    · rw [if_neg hc]
  next => rfl

theorem isClauseChar_of_isPart {c : Char} (h : isPart c = true) : isClauseChar c = true := by
  simp only [isPart, isMark, Bool.or_eq_true, beq_iff_eq] at h
  rcases h with h | (rfl | rfl) | rfl
  · simp [isClauseChar, h]
  all_goals decide

theorem Clause.isMalformed_text (clause : Clause) : isMalformed clause.text = false := by
  have hchars : clause.text.all isClauseChar = true := by
    refine List.all_eq_true.2 fun c hc => ?_
    rcases clause.mem_text c hc with h | rfl | rfl
    · exact isClauseChar_of_isPart h
    all_goals decide
  have hopen : clause.lead.count '\x7b' = 0 :=
    List.count_eq_zero.2 (notMem_of_class clause.isPart_of_mem_lead (by decide))
  have hclose : clause.lead.count '\x7d' = 0 :=
    List.count_eq_zero.2 (notMem_of_class clause.isPart_of_mem_lead (by decide))
  have hbraced : clause.braced.count '\x7b' = clause.braced.count '\x7d' ∧
      clause.braced.count '\x7b' ≤ 1 := by
    rcases clause.braced_eq with h | ⟨bs, h⟩
    · simp [h]
    · have hin : (listed bs).count '\x7b' = 0 :=
        List.count_eq_zero.2 (notMem_of_class (isPart_of_mem_listed bs) (by decide))
      have hout : (listed bs).count '\x7d' = 0 :=
        List.count_eq_zero.2 (notMem_of_class (isPart_of_mem_listed bs) (by decide))
      simp [h, braces, List.count_append, hin, hout]
  unfold isMalformed
  rw [hchars, clause.text_eq, List.count_append, List.count_append, hopen, hclose]
  simp [hbraced.1]
  omega

theorem defaultBinding_name (rest : List Char) (hname : ∀ c ∈ name, isName c = true)
    (hne : name ≠ []) (h : rest = [] ∨ rest.head? = some ',') :
    defaultBinding (name ++ rest) = [name] := by
  have hblank : isBlank ',' = false := by decide
  have hword : isName ',' = false := by decide
  unfold defaultBinding
  rcases h with rfl | h
  · rw [takeWhile_run hname leaves_nil, dropWhile_run hname leaves_nil]
    simp [hne]
  · obtain ⟨rest, rfl⟩ : ∃ rest', rest = ',' :: rest' := by
      cases rest <;> simp_all
    rw [takeWhile_run hname (leaves_cons.2 hword), dropWhile_run hname (leaves_cons.2 hword)]
    simp [hne, hblank]

theorem defaultBinding_of_leaves (h : Leaves isName cs) : defaultBinding cs = [] := by
  unfold defaultBinding
  rw [takeWhile_of_leaves h]
  split <;> simp

theorem braced?_append (hcs : '\x7b' ∉ cs) (rest : List Char) : braced? (cs ++ rest) = braced? rest := by
  induction cs with
  | nil => rfl
  | cons c cs ih =>
    have hc : (c == '\x7b') = false := beq_eq_false_iff_ne.2 (List.ne_of_not_mem_cons hcs).symm
    simp [braced?, hc, ih (List.not_mem_of_not_mem_cons hcs)]

theorem braced?_of_notMem (h : '\x7b' ∉ cs) : braced? cs = none := by
  simpa [braced?] using braced?_append h []

theorem braced?_open (hinner : '\x7d' ∉ inner) (rest : List Char) :
    braced? ('\x7b' :: (inner ++ '\x7d' :: rest)) = some inner := by
  have htake : (inner ++ '\x7d' :: rest).takeWhile (· != '\x7d') = inner :=
    takeWhile_run (fun c hc => by simpa using ne_of_mem_of_not_mem hc hinner) (by simp)
  simp [braced?, htake]

/-- The bindings of a list, each without the blank in front of it. -/
theorem map_trimChars_splitAt (run : List Char) {parts : List (List Char)} (hne : parts ≠ [])
    (hrun : ∀ c ∈ run, isBlank c = true) (ht : ∀ part ∈ parts, Tight part)
    (hcomma : ∀ part ∈ parts, ',' ∉ part) :
    (splitAt ',' (run ++ joinWith ", ".toList parts)).map trimChars = parts := by
  have hrun' : ',' ∉ run := fun hmem => absurd (hrun ',' hmem) (by decide)
  induction parts generalizing run with
  | nil => contradiction
  | cons part parts ih =>
    have hpart : ',' ∉ run ++ part := by simp [hrun', hcomma part List.mem_cons_self]
    have htrim := trimChars_run hrun (ht part List.mem_cons_self)
    cases parts with
    | nil => rw [joinWith, splitAt_of_notMem hpart, List.map_singleton, htrim]
    | cons part' parts =>
      have ih' := ih [' '] (by simp) (by decide)
        (fun p hp => ht p (List.mem_cons_of_mem _ hp))
        (fun p hp => hcomma p (List.mem_cons_of_mem _ hp)) (by simp)
      rw [joinWith, show ", ".toList = [',', ' '] from rfl, ← List.append_assoc,
        ← List.append_assoc, List.append_assoc (run ++ part), List.cons_append,
        splitAt_append_cons hpart, List.map_cons, htrim]
      · exact congrArg _ ih'
      · simp

theorem Binding.comma_notMem (b : Binding) : ',' ∉ b.text := by
  intro hmem
  rcases b.mem_text ',' hmem with h | h <;> revert h <;> decide

theorem star_notMem_braces (bs : List Binding) : '*' ∉ braces bs := by
  intro hmem
  have hlisted : '*' ∈ listed bs := by simpa [braces] using hmem
  rcases mem_listed bs '*' hlisted with h | h | h <;> revert h <;> decide

theorem namedBindings_append_braces (hcs : '\x7b' ∉ cs) (bs : List Binding) :
    namedBindings (cs ++ braces bs) = bs.map Binding.text := by
  have hinner : '\x7d' ∉ listed bs := notMem_of_class (isPart_of_mem_listed bs) (by decide)
  simp only [namedBindings, braces, braced?_append hcs, braced?_open hinner]
  by_cases hbs : bs = []
  · subst hbs
    rfl
  · have ht : ∀ part ∈ bs.map Binding.text, Tight part := by
      simpa using fun b _ => b.tight
    have hsplit := map_trimChars_splitAt [] (by simpa using hbs) (by simp) ht
      (by simpa using fun b _ => b.comma_notMem)
    rw [listed, ← List.nil_append (joinWith _ _), hsplit, List.filter_eq_self]
    intro part hpart
    simpa using (ht part hpart).ne_nil

theorem namedBindings_of_notMem (h : '\x7b' ∉ cs) : namedBindings cs = [] := by
  rw [namedBindings, braced?_of_notMem h]

theorem namespaceBinding_of_notMem (h : '*' ∉ cs) : namespaceBinding cs = [] := by
  induction cs with
  | nil => rfl
  | cons c cs ih =>
    have hc : (c == '*') = false := beq_eq_false_iff_ne.2 (List.ne_of_not_mem_cons h).symm
    simp [namespaceBinding, hc, ih (List.not_mem_of_not_mem_cons h)]

theorem asName?_as (n : Identifier) : asName? (" as ".toList ++ n.name) = some n.name := by
  have htake : n.name.takeWhile isName = n.name := by
    simpa using takeWhile_run n.isName_of_mem (leaves_nil (p := isName))
  have hbehind : (" as ".toList ++ n.name).dropWhile isBlank = "as".toList ++ ' ' :: n.name :=
    dropWhile_blank (leaves_cons.2 (by decide))
  unfold asName?
  rw [hbehind, afterStart_append]
  simp [dropWhile_blank n.tight.starts, takeWhile_blank n.tight.starts, htake, n.ne_nil]

theorem namespaceBinding_append_starAs (hcs : '*' ∉ cs) (n : Identifier) :
    namespaceBinding (cs ++ starAs n) = [starAs n] := by
  induction cs with
  | nil =>
    have hname : asName? (' ' :: 'a' :: 's' :: ' ' :: n.name) = some n.name := asName?_as n
    simp [starAs_eq, namespaceBinding, hname]
  | cons c cs ih =>
    have hc : (c == '*') = false := beq_eq_false_iff_ne.2 (List.ne_of_not_mem_cons hcs).symm
    simp [namespaceBinding, hc, ih (List.not_mem_of_not_mem_cons hcs)]

/-- A written clause yields the names it binds. -/
theorem Clause.clauseNames?_text (clause : Clause) :
    clauseNames? clause.text = some clause.specifiers := by
  obtain ⟨name, rest, htext, hname, hrest, hfirst⟩ := clause.exists_text_eq
  have hbody : clauseBody clause.text = clause.text := by
    rw [htext]
    exact clauseBody_eq (htext ▸ clause.tight) hname hrest hfirst
  have hopen : ∀ n : Identifier, '\x7b' ∉ n.name := fun n =>
    notMem_of_class n.isName_of_mem (by decide)
  have hstar : ∀ n : Identifier, '*' ∉ n.name := fun n =>
    notMem_of_class n.isName_of_mem (by decide)
  have hopenStar : ∀ n : Identifier, '\x7b' ∉ starAs n := by simp [starAs_eq, hopen]
  simp only [clauseNames?, hbody, clause.isMalformed_text, Bool.false_eq_true, if_false,
    Option.some.injEq, specifiers]
  congr 1
  cases clause with
  | default n =>
    have hdefault := defaultBinding_name [] n.isName_of_mem n.ne_nil (.inl rfl)
    rw [List.append_nil] at hdefault
    simp [text, names, hdefault, namedBindings_of_notMem (hopen n),
      namespaceBinding_of_notMem (hstar n)]
  | named bs =>
    have hdefault : defaultBinding (braces bs) = [] :=
      defaultBinding_of_leaves (by simp [braces]; decide)
    have hnamed := namedBindings_append_braces List.not_mem_nil bs
    simp only [List.nil_append] at hnamed
    simp [text, names, hdefault, hnamed, namespaceBinding_of_notMem (star_notMem_braces bs)]
  | star n =>
    have hdefault : defaultBinding (starAs n) = [] :=
      defaultBinding_of_leaves (by simp [starAs_eq]; decide)
    have hshown := namespaceBinding_append_starAs List.not_mem_nil n
    simp only [List.nil_append] at hshown
    simp [text, names, hdefault, hshown, namedBindings_of_notMem (hopenStar n)]
  | defaultNamed n bs =>
    have hlead : '\x7b' ∉ n.name ++ ", ".toList := by simp [hopen]
    have hnone : '*' ∉ n.name ++ ", ".toList ++ braces bs := by
      simp [hstar, star_notMem_braces]
    have hdefault :=
      defaultBinding_name (", ".toList ++ braces bs) n.isName_of_mem n.ne_nil (.inr rfl)
    rw [← List.append_assoc] at hdefault
    rw [text, names, hdefault, namedBindings_append_braces hlead, namespaceBinding_of_notMem hnone]
    simp
  | defaultStar n m =>
    have hlead : '*' ∉ n.name ++ ", ".toList := by simp [hstar]
    have hnone : '\x7b' ∉ n.name ++ ", ".toList ++ starAs m := by simp [hopen, hopenStar]
    have hdefault :=
      defaultBinding_name (", ".toList ++ starAs m) n.isName_of_mem n.ne_nil (.inr rfl)
    rw [← List.append_assoc] at hdefault
    rw [text, names, hdefault, namedBindings_of_notMem hnone, namespaceBinding_append_starAs hlead]
    simp

end Coselect.Imports
