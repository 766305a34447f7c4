import Coselect.Proofs.Imports.Reading

/-! What blanking leaves of a text. Code without quotes and slashes and literals stay as they are; a
comment becomes blanks, as many as it has characters and with its line feeds. Whatever is blanked,
every other character stays in its place. -/

namespace Coselect.Imports

open Text

variable {c q : Char} {cs xs ys rest word : List Char} {continued : Bool}

/-- Begins neither a literal nor a comment. -/
def isBare (c : Char) : Bool := !isQuote c && c != '/'

theorem blankFrom_bare (h : ∀ c ∈ xs, isBare c = true) :
    blankFrom .code (xs ++ rest) = xs ++ blankFrom .code rest := by
  induction xs with
  | nil => rfl
  | cons c xs ih =>
    have hc := h c List.mem_cons_self
    simp only [isBare, Bool.and_eq_true, Bool.not_eq_true', bne_iff_ne] at hc
    have ih' := ih fun d hd => h d (List.mem_cons_of_mem _ hd)
    simp [blankFrom, Mode.next, Mode.blanks, hc.1, hc.2, ih']

/-- What may stand between the quotes of a literal. An escaped line feed is let in only where literals
are continued behind it. -/
inductive Body (continued : Bool) (q : Char) : List Char → Prop
  | nil : Body continued q []
  | escaped {c : Char} {cs : List Char} (hline : continued = true ∨ c ≠ '\n')
      (hbody : Body continued q cs) : Body continued q ('\\' :: c :: cs)
  | plain {c : Char} {cs : List Char} (hslash : c ≠ '\\') (hquote : c ≠ q)
      (hline : c = '\n' → q = backquote) (hbody : Body continued q cs) : Body continued q (c :: cs)

theorem ne_backslash_of_isQuote (h : isQuote q = true) : q ≠ '\\' := by
  rintro rfl
  exact absurd h (by decide)

theorem ne_slash_of_isQuote (h : isQuote q = true) : q ≠ '/' := by
  rintro rfl
  exact absurd h (by decide)

theorem closes_of_body (h : Body false q xs) (hq : q ≠ '\\') (rest : List Char) :
    closes q (xs ++ q :: rest) = true := by
  induction h with
  | nil => simp [closes, hq]
  | escaped hline _ ih =>
    have hline' := hline.resolve_left Bool.false_ne_true
    simpa [closes, hline'] using ih
  | plain hslash hquote hline _ ih =>
    simpa [closes, hslash, hquote, ih] using Decidable.not_or_of_imp hline

theorem exists_body_of_closes (h : closes q cs = true) :
    ∃ xs rest, cs = xs ++ q :: rest ∧ Body false q xs := by
  fun_induction closes q cs with
  | case1 => contradiction
  | case2 => contradiction
  | case3 c cs hline ih =>
    obtain ⟨xs, rest, rfl, hbody⟩ := ih h
    exact ⟨'\\' :: c :: xs, rest, rfl, .escaped (.inr hline) hbody⟩
  | case4 c cs _ _ ih =>
    simp only [Bool.or_eq_true, beq_iff_eq, Bool.and_eq_true, bne_iff_ne] at h
    by_cases hquote : c = q
    · exact ⟨[], cs, by rw [hquote, List.nil_append], .nil⟩
    · obtain ⟨⟨hslash, hline⟩, hrest⟩ := h.resolve_left hquote
      obtain ⟨xs, rest, rfl, hbody⟩ := ih hrest
      exact ⟨c :: xs, rest, rfl, .plain hslash hquote (fun heq => hline.resolve_left (· heq)) hbody⟩

theorem blankFrom_body (h : Body continued q xs) (hq : q ≠ '\\') (rest : List Char) :
    blankFrom (.literal q) (xs ++ q :: rest) = xs ++ q :: blankFrom .code rest := by
  induction h with
  | nil => simp [blankFrom, Mode.next, Mode.blanks, hq]
  | escaped _ _ ih => simp [blankFrom, Mode.next, Mode.blanks, ih]
  | plain hslash hquote _ _ ih => simp [blankFrom, Mode.next, Mode.blanks, hslash, hquote, ih]

/-- A literal stays, whatever it holds. -/
theorem blankFrom_quoted (h : Body false q xs) (hq : isQuote q = true) (rest : List Char) :
    blankFrom .code (q :: (xs ++ q :: rest)) = q :: (xs ++ q :: blankFrom .code rest) := by
  have hslash := ne_backslash_of_isQuote hq
  simp [blankFrom, Mode.next, Mode.blanks, hq, closes_of_body h hslash, blankFrom_body h hslash]

theorem Literal.body (l : Literal) : Body false l.quote l.source := by
  have hall := l.plain
  generalize l.source = s at hall
  induction s with
  | nil => exact .nil
  | cons c s ih =>
    obtain ⟨hc, -, hslash⟩ := hall c List.mem_cons_self
    have hline : c ≠ '\n' := by
      rintro rfl
      exact absurd hc (by decide)
    exact .plain hslash (ne_of_quote l.isQuote hc) (fun heq => absurd heq hline)
      (ih fun d hd => hall d (List.mem_cons_of_mem _ hd))

theorem blankFrom_text (l : Literal) :
    blankFrom .code (l.text ++ rest) = l.text ++ blankFrom .code rest := by
  have hquote : isQuote l.quote = true := by rcases l.isQuote with h | h <;> simp [isQuote, h]
  simp [Literal.text, blankFrom_quoted l.body hquote rest]

theorem isBare_of_isPart (h : isPart c = true) : isBare c = true := by
  have hne : ∀ d ∈ ['"', '\'', backquote, '/'], c ≠ d := forall_ne_of_class h (by decide)
  simpa [isBare, isQuote, and_assoc] using hne

theorem isBare_of_isBlank (h : isBlank c = true) : isBare c = true := by
  have hne : ∀ d ∈ ['"', '\'', backquote, '/'], c ≠ d := forall_ne_of_class h (by decide)
  simpa [isBare, isQuote, and_assoc] using hne

theorem Clause.isBare_of_mem (clause : Clause) : ∀ c ∈ clause.text, isBare c = true := by
  intro c hc
  rcases clause.mem_text c hc with h | rfl | rfl
  · exact isBare_of_isPart h
  all_goals decide

theorem Clause.blankFrom_importText (clause : Clause) (l : Literal) (rest : List Char) :
    blankFrom .code (clause.importText l ++ rest) = clause.importText l ++ blankFrom .code rest := by
  have himport : ∀ c ∈ "import ".toList, isBare c = true := by decide
  have hfrom : ∀ c ∈ " from ".toList, isBare c = true := by decide
  rw [importText_eq, List.append_assoc, List.append_assoc, List.append_assoc,
    blankFrom_bare himport, blankFrom_bare clause.isBare_of_mem, blankFrom_bare hfrom,
    blankFrom_text]
  simp only [List.append_assoc]

theorem blankFrom_line (rest : List Char) (h : '\n' ∉ xs) :
    blankFrom .line (xs ++ rest) = xs.map blankChar ++ blankFrom .line rest := by
  induction xs with
  | nil => rfl
  | cons c xs ih =>
    obtain ⟨hc, hxs⟩ := not_or.1 (mt List.mem_cons.2 h)
    simp [blankFrom, Mode.next, Mode.blanks, Ne.symm hc, ih hxs]

/-- A line comment, up to the end of its line. -/
theorem blankFrom_lineComment (rest : List Char) (h : '\n' ∉ xs) :
    blankFrom .code ("//".toList ++ (xs ++ rest)) =
      ("//".toList ++ xs).map blankChar ++ blankFrom .line rest := by
  have hline := blankFrom_line rest h
  simp [blankFrom, Mode.next, Mode.blanks, isQuote, backquote, blankChar, hline]

theorem blockCloses_append : blockCloses (xs ++ ("*/".toList ++ rest)) = true := by
  induction xs with
  | nil => rfl
  | cons c xs ih =>
    rw [List.cons_append]
    unfold blockCloses
    split
    next => rfl
    next h =>
      obtain ⟨-, rfl⟩ := List.cons.inj h
      exact ih
    next h => simp at h

theorem exists_block_of_blockCloses (h : blockCloses cs = true) :
    ∃ xs rest, cs = xs ++ ("*/".toList ++ rest) ∧ ¬ "*/".toList <:+: xs := by
  fun_induction blockCloses cs with
  | case1 cs => exact ⟨[], cs, rfl, by simp⟩
  | case2 c cs hfirst ih =>
    obtain ⟨xs, rest, rfl, hblock⟩ := ih h
    refine ⟨c :: xs, rest, rfl, fun hin => ?_⟩
    rcases List.infix_cons_iff.1 hin with hprefix | hin
    · obtain ⟨u, hu⟩ := hprefix
      obtain ⟨rfl, rfl⟩ : '*' = c ∧ '/' :: u = xs := by simpa using hu
      exact hfirst _ rfl rfl
    · exact hblock hin
  | case3 => contradiction

theorem blankFrom_block (h : ¬ "*/".toList <:+: xs) :
    blankFrom .block (xs ++ ("*/".toList ++ rest)) =
      (xs ++ "*/".toList).map blankChar ++ blankFrom .code rest := by
  induction xs with
  | nil => simp [blankFrom, Mode.next, Mode.blanks]
  | cons c xs ih =>
    have hxs : ¬ "*/".toList <:+: xs := fun hin => h (hin.trans (List.suffix_cons c xs).isInfix)
    -- A star does not stand in front of a slash, be it one of the text or of the closer.
    have hstay : (c == '*' && (xs ++ ("*/".toList ++ rest)).head? == some '/') = false := by
      by_contra hend
      simp only [Bool.not_eq_false, Bool.and_eq_true, beq_iff_eq] at hend
      obtain ⟨rfl, hhead⟩ := hend
      cases xs with
      | nil => simp at hhead
      | cons d xs =>
        obtain rfl : d = '/' := by simpa using hhead
        exact h ⟨[], xs, by simp⟩
    rw [List.cons_append, blankFrom]
    simp only [Mode.next, hstay, Mode.blanks, Bool.false_eq_true, if_false, if_true]
    rw [ih hxs]
    rfl

/-- A block comment, up to its closer. -/
theorem blankFrom_blockComment (rest : List Char) (h : ¬ "*/".toList <:+: xs) :
    blankFrom .code ("/*".toList ++ (xs ++ ("*/".toList ++ rest))) =
      ("/*".toList ++ (xs ++ "*/".toList)).map blankChar ++ blankFrom .code rest := by
  have hslash : Mode.code.next '/' ('*' :: (xs ++ ("*/".toList ++ rest))) = .blockStar := by
    simp only [Mode.next, blockCloses_append]
    rfl
  rw [show "/*".toList = ['/', '*'] from rfl, List.cons_append, List.cons_append, List.nil_append,
    blankFrom, hslash, blankFrom]
  simp only [Mode.next, Mode.blanks]
  rw [blankFrom_block h]
  rfl

theorem isBlank_blankChar (c : Char) : isBlank (blankChar c) = true := by
  unfold blankChar
  split
  next h => rw [beq_iff_eq.1 h]; decide
  next => decide

theorem count_map_blankChar (cs : List Char) : (cs.map blankChar).count '\n' = cs.count '\n' := by
  induction cs with
  | nil => rfl
  | cons c cs ih => by_cases hc : c = '\n' <;> simp [blankChar, hc, ih]

/-- A character stays or, unless it is a line feed, gives way to a blank. -/
def Keeps (c d : Char) : Prop := d = c ∨ c ≠ '\n' ∧ d = ' '

theorem forall₂_blankFrom (m : Mode) (cs : List Char) : List.Forall₂ Keeps cs (blankFrom m cs) := by
  induction cs generalizing m with
  | nil => exact .nil
  | cons c cs ih =>
    refine .cons ?_ (ih _)
    split
    next =>
      by_cases hc : c = '\n'
      · exact .inl (by simp [blankChar, hc])
      · exact .inr ⟨hc, by simp [blankChar, hc]⟩
    next => exact .inl rfl

theorem count_of_keeps (h : List.Forall₂ Keeps xs ys) : ys.count '\n' = xs.count '\n' := by
  induction h with
  | nil => rfl
  | cons hcd _ ih =>
    rcases hcd with rfl | ⟨hc, rfl⟩
    · rw [List.count_cons, List.count_cons, ih]
    · simp [ih, hc]

/-- A word without blanks is as it was. -/
theorem prefix_of_keeps (h : List.Forall₂ Keeps xs ys) (hword : ' ' ∉ word) (hys : word <+: ys) :
    word <+: xs := by
  induction h generalizing word with
  | nil => exact hys
  | cons hcd _ ih =>
    cases word with
    | nil => exact List.nil_prefix
    | cons e word =>
      obtain ⟨rfl, hword'⟩ := List.cons_prefix_cons.1 hys
      rw [List.mem_cons, not_or] at hword
      have hsame := hcd.resolve_right fun hblank => hword.1 hblank.2.symm
      exact List.cons_prefix_cons.2 ⟨hsame, ih hword.2 hword'⟩

end Coselect.Imports
