import Mathlib.Data.List.TakeWhile
import Coselect.Text.Basic

/-! Leading parts, blanks and names. A text that starts with a run of one class of characters, and
goes on with a character outside it, is cut behind that run. -/

namespace Coselect.Text

variable {p : Char → Bool} {c d : Char} {cs ds part rest run : List Char}

/-- Of a text its characters are tried, rather than all the characters there are. -/
instance (priority := 1100) decidableForallMem (p : Char → Prop) [DecidablePred p]
    (cs : List Char) : Decidable (∀ c ∈ cs, p c) := List.decidableBAll p cs

/-- A class tells its characters from all others. -/
theorem ne_of_class (h : p c = true) (hd : p d = false) : c ≠ d := by
  rintro rfl
  simp [h] at hd

theorem forall_ne_of_class (h : p c = true) (hds : ∀ d ∈ ds, p d = false) : ∀ d ∈ ds, c ≠ d :=
  fun d hd => ne_of_class h (hds d hd)

theorem notMem_of_class (h : ∀ c ∈ cs, p c = true) (hd : p d = false) : d ∉ cs :=
  fun hmem => ne_of_class (h d hmem) hd rfl

theorem afterStart_eq_some_iff : afterStart part cs = some rest ↔ cs = part ++ rest := by
  induction part generalizing cs with
  | nil => simp [afterStart]
  | cons a part ih =>
    cases cs with
    | nil => simp [afterStart]
    | cons c cs =>
      unfold afterStart
      split
      next h => simp [ih, beq_iff_eq.1 h]
      next h => simpa using fun e => absurd (beq_iff_eq.2 e.symm) h

@[simp] theorem afterStart_append : afterStart part (part ++ rest) = some rest :=
  afterStart_eq_some_iff.2 rfl

/-- Blanks are neither letters nor numbers. -/
theorem isName_of_isBlank (h : isBlank c = true) : isName c = false := by
  have hall : ∀ r ∈ blankRanges, ∀ n ∈ List.range' r.1 (r.2 + 1 - r.1),
      isName (Char.ofNat n) = false := by decide +kernel
  obtain ⟨r, hr, hc⟩ := List.any_eq_true.1 h
  simp only [Bool.and_eq_true, decide_eq_true_eq] at hc
  have hmem : c.toNat ∈ List.range' r.1 (r.2 + 1 - r.1) := by
    rw [List.mem_range'_1]
    omega
  simpa using hall r hr c.toNat hmem

theorem isBlank_of_isName (h : isName c = true) : isBlank c = false :=
  Bool.eq_false_iff.2 fun hb => by simp [isName_of_isBlank hb] at h

/-- The text does not go on with the class. -/
def Leaves (p : Char → Bool) (cs : List Char) : Prop := cs.head?.all fun c => !p c

@[simp] theorem leaves_nil : Leaves p [] := rfl

@[simp] theorem leaves_cons : Leaves p (c :: cs) ↔ p c = false := by simp [Leaves]

theorem takeWhile_run (h : ∀ c ∈ run, p c = true) (hrest : Leaves p rest) :
    (run ++ rest).takeWhile p = run := by
  rw [List.takeWhile_append_of_pos h]
  cases rest with
  | nil => simp
  | cons c rest => simp [leaves_cons.1 hrest]

theorem dropWhile_run (h : ∀ c ∈ run, p c = true) (hrest : Leaves p rest) :
    (run ++ rest).dropWhile p = rest := by
  rw [List.dropWhile_append_of_pos h]
  cases rest with
  | nil => simp
  | cons c rest => simp [leaves_cons.1 hrest]

theorem takeWhile_of_leaves (h : Leaves p cs) : cs.takeWhile p = [] := by
  simpa using takeWhile_run (List.forall_mem_nil _) h

theorem dropWhile_of_leaves (h : Leaves p cs) : cs.dropWhile p = cs := by
  simpa using dropWhile_run (List.forall_mem_nil _) h

theorem isBlank_of_mem_space : ∀ c ∈ [' '], isBlank c = true := by decide

theorem takeWhile_blank (h : Leaves isBlank cs) : (' ' :: cs).takeWhile isBlank = [' '] := by
  have hblank : isBlank ' ' = true := by decide
  rw [List.takeWhile_cons_of_pos hblank, takeWhile_of_leaves h]

theorem dropWhile_blank (h : Leaves isBlank cs) : (' ' :: cs).dropWhile isBlank = cs := by
  have hblank : isBlank ' ' = true := by decide
  rw [List.dropWhile_cons_of_pos hblank, dropWhile_of_leaves h]

theorem leaves_dropWhile (p : Char → Bool) (cs : List Char) : Leaves p (cs.dropWhile p) := by
  induction cs with
  | nil => rfl
  | cons c cs ih =>
    rw [List.dropWhile_cons]
    split
    next => exact ih
    next h => simpa using h

theorem drop_length_takeWhile (p : Char → Bool) (cs : List Char) :
    cs.drop (cs.takeWhile p).length = cs.dropWhile p := by
  have h : (cs.takeWhile p ++ cs.dropWhile p).drop (cs.takeWhile p).length = cs.dropWhile p :=
    List.drop_left
  rwa [List.takeWhile_append_dropWhile] at h

/-- Every text is a run of the class and a rest that leaves it. -/
theorem exists_run (p : Char → Bool) (cs : List Char) :
    ∃ run rest, cs = run ++ rest ∧ (∀ c ∈ run, p c = true) ∧ Leaves p rest :=
  ⟨cs.takeWhile p, cs.dropWhile p, List.takeWhile_append_dropWhile.symm,
    fun _ hc => List.mem_takeWhile_imp hc, leaves_dropWhile p cs⟩

theorem leaves_append_of_ne_nil (h : run ≠ []) : Leaves p (run ++ rest) ↔ Leaves p run := by
  obtain ⟨c, run, rfl⟩ := List.exists_cons_of_ne_nil h
  simp

theorem mem_dropEndWhile (h : c ∈ dropEndWhile p cs) : c ∈ cs := by
  rw [dropEndWhile, List.mem_reverse] at h
  simpa using (List.dropWhile_suffix p).subset h

/-- A text that has no blank at either end. -/
structure Tight (cs : List Char) : Prop where
  ne_nil : cs ≠ []
  starts : Leaves isBlank cs
  ends : Leaves isBlank cs.reverse

theorem tight_of_isName (hne : cs ≠ []) (h : ∀ c ∈ cs, isName c = true) : Tight cs := by
  have hleaves : ∀ ds : List Char, (∀ d ∈ ds, isName d = true) → Leaves isBlank ds := by
    intro ds hds
    cases ds with
    | nil => exact leaves_nil
    | cons d ds => exact leaves_cons.2 (isBlank_of_isName (hds d List.mem_cons_self))
  exact ⟨hne, hleaves cs h, hleaves cs.reverse fun c hc => h c (List.mem_reverse.1 hc)⟩

theorem Tight.append {xs ys zs : List Char} (hx : Tight xs) (hz : Tight zs) :
    Tight (xs ++ ys ++ zs) := by
  refine ⟨by simp [hx.ne_nil], ?_, ?_⟩
  · rw [List.append_assoc]
    exact (leaves_append_of_ne_nil hx.ne_nil).2 hx.starts
  · rw [List.reverse_append]
    exact (leaves_append_of_ne_nil (by simpa using hz.ne_nil)).2 hz.ends

/-- Trimming takes the blanks in front of such a text and nothing of it. -/
theorem trimChars_run (hrun : ∀ c ∈ run, isBlank c = true) (h : Tight cs) :
    trimChars (run ++ cs) = cs := by
  rw [trimChars, trimBy, dropWhile_run hrun h.starts, dropEndWhile, dropWhile_of_leaves h.ends,
    List.reverse_reverse]

theorem Tight.trimChars_eq (h : Tight cs) : trimChars cs = cs := by
  simpa using trimChars_run (List.forall_mem_nil _) h

end Coselect.Text
