import Coselect.Proofs.Text.Words

/-! Replacing the occurrences of a part. -/

namespace Coselect.Text

variable {c first : Char} {cs front old new rest : List Char}

/-- One character is replaced wherever it stands. -/
theorem replaceFrom_singleton (c : Char) (new cs : List Char) :
    replaceFrom [c] new 0 cs = cs.flatMap fun d => if d = c then new else [d] := by
  induction cs with
  | nil => rfl
  | cons d cs ih =>
    rw [List.flatMap_cons, ← ih, replaceFrom]
    by_cases hd : d = c
    · subst hd
      simp [afterStart]
    · have hne : (c == d) = false := beq_eq_false_iff_ne.2 (Ne.symm hd)
      simp [afterStart, hne, hd]

/-- What was replaced just now is skipped. -/
theorem replaceFrom_skip (old new front rest : List Char) :
    replaceFrom old new front.length (front ++ rest) = replaceFrom old new 0 rest := by
  induction front with
  | nil => rfl
  | cons c front ih => exact ih

theorem replaceFrom_append_old (first : Char) (old new rest : List Char) :
    replaceFrom (first :: old) new 0 (first :: old ++ rest) =
      new ++ replaceFrom (first :: old) new 0 rest := by
  have hstart : (afterStart (first :: old) (first :: (old ++ rest))).isSome = true := by
    rw [← List.cons_append, afterStart_append]
    rfl
  rw [List.cons_append, replaceFrom, if_pos hstart, List.length_cons, Nat.add_sub_cancel, replaceFrom_skip]

/-- A character at which no occurrence starts stays. -/
theorem replaceFrom_cons_of_none (h : afterStart old (c :: cs) = none) :
    replaceFrom old new 0 (c :: cs) = c :: replaceFrom old new 0 cs := by
  rw [replaceFrom, h]
  rfl

theorem replaceFrom_cons_of_ne (h : first ≠ c) :
    replaceFrom (first :: old) new 0 (c :: cs) = c :: replaceFrom (first :: old) new 0 cs :=
  replaceFrom_cons_of_none (by simp [afterStart, h])

theorem replaceFrom_append_of_notMem (h : first ∉ front) :
    replaceFrom (first :: old) new 0 (front ++ rest) =
      front ++ replaceFrom (first :: old) new 0 rest := by
  induction front with
  | nil => rfl
  | cons c front ih =>
    rw [List.cons_append, replaceFrom_cons_of_ne (List.ne_of_not_mem_cons h),
      ih (List.not_mem_of_not_mem_cons h), List.cons_append]

/-- Replacing brings in no characters but those of the new text. -/
theorem mem_of_mem_replaceFrom {k : Nat} (h : c ∈ replaceFrom old new k cs) : c ∈ new ∨ c ∈ cs := by
  induction cs generalizing k with
  | nil => cases k <;> cases h
  | cons d cs ih =>
    have hcs : ∀ {k}, c ∈ replaceFrom old new k cs → c ∈ new ∨ c ∈ d :: cs :=
      fun h => (ih h).imp_right (List.mem_cons_of_mem d)
    cases k with
    | succ k => exact hcs h
    | zero =>
      rw [replaceFrom] at h
      split at h
      next => exact (List.mem_append.1 h).elim .inl hcs
      next =>
        rcases List.mem_cons.1 h with rfl | h
        · exact .inr List.mem_cons_self
        · exact hcs h

end Coselect.Text
