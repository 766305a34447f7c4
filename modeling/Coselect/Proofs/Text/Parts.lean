import Coselect.Proofs.Path

/-! The parts of a text between separators. Joined again they are the text; and to cut the text at a
separator is to cut the list of its parts in two. -/

namespace Coselect.Text

variable {sep : Char} {cs front rest part : List Char} {parts taken : List (List Char)}

theorem splitAt_ne_nil (sep : Char) (cs : List Char) : splitAt sep cs ≠ [] := by
  cases cs with
  | nil => simp [splitAt]
  | cons c cs =>
    unfold splitAt
    split
    next => simp
    next => split <;> simp

theorem joinWith_cons (hne : parts ≠ []) :
    joinWith [sep] (part :: parts) = part ++ sep :: joinWith [sep] parts := by
  cases parts with
  | nil => contradiction
  | cons next parts => simp [joinWith]

theorem joinWith_append (htaken : taken ≠ []) (hne : parts ≠ []) :
    joinWith [sep] (taken ++ parts) = joinWith [sep] taken ++ sep :: joinWith [sep] parts := by
  induction taken with
  | nil => contradiction
  | cons part taken ih =>
    rw [List.cons_append, joinWith_cons (by simp [hne])]
    cases taken with
    | nil => simp [joinWith]
    | cons next taken =>
      have hfirst : joinWith [sep] (part :: next :: taken) =
          part ++ sep :: joinWith [sep] (next :: taken) := joinWith_cons (by simp)
      rw [ih (by simp), hfirst, List.append_assoc, List.cons_append]

@[simp] theorem joinWith_splitAt (sep : Char) (cs : List Char) :
    joinWith [sep] (splitAt sep cs) = cs := by
  induction cs with
  | nil => rfl
  | cons c cs ih =>
    unfold splitAt
    split
    next hc =>
      rw [joinWith_cons (splitAt_ne_nil sep cs), ih, beq_iff_eq.1 hc]
      rfl
    next =>
      split
      next hnil => exact absurd hnil (splitAt_ne_nil sep cs)
      next part parts hparts =>
        rw [hparts] at ih
        rw [← ih]
        cases parts <;> simp [joinWith]

theorem mem_of_mem_joinWith {c : Char} (hpart : part ∈ parts) (hc : c ∈ part) :
    c ∈ joinWith [sep] parts := by
  induction parts with
  | nil => simp at hpart
  | cons first parts ih =>
    by_cases hne : parts = []
    · subst hne
      obtain rfl := List.mem_singleton.1 hpart
      exact hc
    · rw [joinWith_cons hne, List.mem_append, List.mem_cons]
      rcases List.mem_cons.1 hpart with rfl | hpart
      · exact .inl hc
      · exact .inr (.inr (ih hpart))

theorem mem_joinWith {c : Char} {between : List Char} (h : c ∈ joinWith between parts) :
    c ∈ between ∨ ∃ part ∈ parts, c ∈ part := by
  induction parts with
  | nil => cases h
  | cons part parts ih =>
    cases parts with
    | nil => exact .inr ⟨part, List.mem_cons_self, h⟩
    | cons next parts =>
      have h : c ∈ part ++ between ++ joinWith between (next :: parts) := h
      rw [List.mem_append, List.mem_append] at h
      rcases h with (h | h) | h
      · exact .inr ⟨part, List.mem_cons_self, h⟩
      · exact .inl h
      · exact (ih h).imp_right fun ⟨p, hp, hc⟩ => ⟨p, List.mem_cons_of_mem _ hp, hc⟩

theorem mem_of_mem_splitAt {c : Char} (hpart : part ∈ splitAt sep cs) (hc : c ∈ part) : c ∈ cs :=
  joinWith_splitAt sep cs ▸ mem_of_mem_joinWith hpart hc

theorem splitAt_append_sep (sep : Char) (front rest : List Char) :
    splitAt sep (front ++ sep :: rest) = splitAt sep front ++ splitAt sep rest := by
  have hparts : ∀ cs : List Char, ∀ part ∈ splitAt sep cs, sep ∉ part :=
    fun _ _ => notMem_of_mem_splitAt
  have hjoin : joinWith [sep] (splitAt sep front ++ splitAt sep rest) = front ++ sep :: rest := by
    rw [joinWith_append (splitAt_ne_nil sep front) (splitAt_ne_nil sep rest), joinWith_splitAt,
      joinWith_splitAt]
  rw [← hjoin]
  refine splitAt_joinWith (by simp [splitAt_ne_nil]) fun part hpart => ?_
  exact (List.mem_append.1 hpart).elim (hparts _ part) (hparts _ part)

/-- Parts cut in two come from a text cut at a separator. -/
theorem exists_of_splitAt_eq_append (h : splitAt sep cs = taken ++ parts) (htaken : taken ≠ [])
    (hne : parts ≠ []) : ∃ front rest, cs = front ++ sep :: rest ∧
      splitAt sep front = taken ∧ splitAt sep rest = parts := by
  have hparts : ∀ part ∈ taken ++ parts, sep ∉ part := h ▸ fun _ => notMem_of_mem_splitAt
  rw [List.forall_mem_append] at hparts
  refine ⟨_, _, ?_, splitAt_joinWith htaken hparts.1, splitAt_joinWith hne hparts.2⟩
  rw [← joinWith_append htaken hne, ← h, joinWith_splitAt]

theorem splitAt_eq_singleton_iff : splitAt sep cs = [part] ↔ sep ∉ cs ∧ cs = part := by
  constructor
  · intro h
    have hpart : sep ∉ part := notMem_of_mem_splitAt (h ▸ List.mem_singleton_self part)
    have hjoin := joinWith_splitAt sep cs
    rw [h] at hjoin
    exact ⟨hjoin ▸ hpart, hjoin.symm⟩
  · rintro ⟨hcs, rfl⟩
    exact splitAt_of_notMem hcs

/-- The first part ends with the text or at a separator. -/
theorem splitAt_eq_cons_iff : splitAt sep cs = part :: parts ↔ sep ∉ part ∧
    (cs = part ∧ parts = [] ∨ ∃ rest, cs = part ++ sep :: rest ∧ splitAt sep rest = parts) := by
  constructor
  · intro h
    have hpart : sep ∉ part := notMem_of_mem_splitAt (h ▸ List.mem_cons_self)
    refine ⟨hpart, ?_⟩
    by_cases hne : parts = []
    · subst hne
      exact .inl ⟨(splitAt_eq_singleton_iff.1 h).2, rfl⟩
    · obtain ⟨front, rest, rfl, hfront, hrest⟩ :=
        exists_of_splitAt_eq_append (h.trans List.singleton_append.symm) (by simp) hne
      obtain ⟨-, rfl⟩ := splitAt_eq_singleton_iff.1 hfront
      exact .inr ⟨rest, rfl, hrest⟩
  · rintro ⟨hpart, ⟨rfl, rfl⟩ | ⟨rest, rfl, rfl⟩⟩
    · exact splitAt_of_notMem hpart
    · exact splitAt_append_cons hpart

end Coselect.Text
