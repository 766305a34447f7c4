import Coselect.Proofs.Imports.Clause
import Coselect.Proofs.Imports.Source

/-! What the recognizers read of a written import. Each form is read whole by the one made for it:
its clause and its source come back as written, whatever follows. -/

namespace Coselect.Imports

open Text

variable {α : Type} {f : Found α} {before : Char} {cs s run rest tail : List Char} {c q : Char}
  {m n : Nat}

@[simp] theorem Found.longer_longer (f : Found α) (m n : Nat) :
    (f.longer m).longer n = f.longer (n + m) := by
  simp [Found.longer, Nat.add_assoc]

theorem Literal.unquoted (l : Literal) : Unquoted l.source :=
  fun c hc => ⟨(l.plain c hc).1, (l.plain c hc).2.1⟩

theorem quotedSource?_text (l : Literal) :
    quotedSource? (l.text ++ rest) = some ⟨l.source, l.text.length⟩ := by
  have hleaves : Leaves isSourceChar (l.quote :: rest) := by
    rcases l.isQuote with h | h <;> rw [h] <;> exact leaves_cons.2 (by decide)
  have htake := takeWhile_run (fun c hc => (l.plain c hc).1) hleaves
  have hdrop := dropWhile_run (fun c hc => (l.plain c hc).1) hleaves
  simp [Literal.text, quotedSource?, htake, l.ne_nil, l.isQuote]

theorem leaves_text (l : Literal) : Leaves isBlank (l.text ++ rest) :=
  leaves_cons.2 (isBlank_of_quote l.isQuote)

theorem fromSource?_text (l : Literal) (rest : List Char) :
    fromSource? (" from ".toList ++ (l.text ++ rest)) = some ⟨l.source, 6 + l.text.length⟩ := by
  have hfrom : Leaves isBlank ("from".toList ++ ([' '] ++ (l.text ++ rest))) :=
    leaves_cons.2 (by decide)
  rw [fromSource?, show " from ".toList = [' '] ++ ("from".toList ++ [' ']) from rfl,
    List.append_assoc, List.append_assoc, behindBlanks_run isBlank_of_mem_space hfrom,
    behind_append, behindBlanks_run isBlank_of_mem_space (leaves_text l), quotedSource?_text]
  simp [Found.longer]
  omega

theorem isBlank_of_isClauseStop (h : isClauseStop q = true) : isBlank q = false := by
  simp only [isClauseStop, Bool.or_eq_true, beq_iff_eq] at h
  rcases h with ((((rfl | rfl) | rfl) | rfl) | rfl) | rfl <;> decide

theorem quotedSource?_of_isClauseStop (h : isClauseStop c = false) :
    quotedSource? (c :: cs) = none := by
  refine quotedSource?_cons ?_
  constructor <;> rintro rfl <;> exact absurd h (by decide)

/-- Up to a character that ends a clause stands more than one word and blanks, or no source. -/
theorem fromSource?_eq_none (tail : List Char) (hs : ∀ c ∈ s, isClauseStop c = false)
    (hq : isClauseStop q = true)
    (h : ∀ run run', s = run ++ ("from".toList ++ run') → (∀ c ∈ run, isBlank c = true) →
      (∀ c ∈ run', isBlank c = true) → quotedSource? (q :: tail) = none) :
    fromSource? (s ++ q :: tail) = none := by
  have hblank := isBlank_of_isClauseStop hq
  have hfrom : ∀ c ∈ "from".toList, isClauseStop c = false := by decide
  refine behindBlanks_eq_none fun run r hr hrun _ => .inr (behind_eq_none fun r₁ hr₁ => ?_)
  refine behindBlanks_eq_none fun run' r₂ hr₂ hrun' _ => .inr ?_
  obtain ⟨s₁, rfl, rfl⟩ :=
    exists_of_append_eq (notMem_of_class hrun hblank) hr
  obtain ⟨s₂, rfl, rfl⟩ := exists_of_append_eq (fun hmem => by simp [hfrom q hmem] at hq) hr₁
  obtain ⟨s₃, rfl, rfl⟩ :=
    exists_of_append_eq (notMem_of_class hrun' hblank) hr₂
  cases s₃ with
  | nil => exact h run run' (by simp) hrun hrun'
  | cons c s₃ =>
    exact quotedSource?_of_isClauseStop (hs c (by simp))

theorem Literal.isClauseStop_quote (l : Literal) : isClauseStop l.quote = true := by
  rcases l.isQuote with h | h <;> rw [h] <;> decide

/-- The clause reaches up to the blank in front of `from` when it does not end in one. -/
theorem clauseAndSource?_text (before : Char) (l : Literal)
    (hstop : ∀ c ∈ cs, isClauseStop c = false) (hends : Leaves isBlank cs.reverse) :
    clauseAndSource? before (cs ++ (" from ".toList ++ (l.text ++ rest))) =
      some ⟨(cs, l.source), cs.length + (6 + l.text.length)⟩ := by
  induction cs generalizing before with
  | nil =>
    have hhead : isBlank ' ' = true := by decide
    unfold clauseAndSource?
    rw [List.nil_append, fromSource?_text l rest]
    simp [hhead]
  | cons c cs ih =>
    have hends' : Leaves isBlank cs.reverse := by
      cases hcs : cs.reverse with
      | nil => exact leaves_nil
      | cons d ds => simpa [List.reverse_cons, hcs] using hends
    have hnone : fromSource? (c :: cs ++ (" from ".toList ++ (l.text ++ rest))) = none := by
      have hall : ∀ d ∈ c :: cs ++ " from ".toList, isClauseStop d = false := by
        have hfrom : ∀ d ∈ " from ".toList, isClauseStop d = false := by decide
        exact List.forall_mem_append.2 ⟨hstop, hfrom⟩
      have hcut := fromSource?_eq_none (l.source ++ [l.quote] ++ rest) hall l.isClauseStop_quote ?_
      · simpa [Literal.text] using hcut
      · intro run run' heq hrun hrun'
        -- Read from the end both sides are blanks, the word and blanks; the clause ends in none.
        have hrev : run'.reverse ++ ("morf".toList ++ run.reverse) =
            [' '] ++ ("morf".toList ++ ([' '] ++ (c :: cs).reverse)) := by
          simpa using (congrArg List.reverse heq).symm
        have hleaves : ∀ cs : List Char, Leaves isBlank ("morf".toList ++ cs) :=
          fun cs => leaves_cons.2 (by decide)
        have hdrop := congrArg (List.dropWhile isBlank) hrev
        rw [dropWhile_run (by simpa using hrun') (hleaves _),
          dropWhile_run (by decide) (hleaves _), List.append_cancel_left_eq] at hdrop
        obtain ⟨d, ds, hds⟩ := List.exists_cons_of_ne_nil (l := (c :: cs).reverse) (by simp)
        have hd : d ∈ run := List.mem_reverse.1 (by rw [hdrop, hds]; simp)
        rw [hds, leaves_cons, hrun d hd] at hends
        contradiction
    have ih' := ih c (fun d hd => hstop d (List.mem_cons_of_mem _ hd)) hends'
    have hc : isClauseStop c = false := hstop c List.mem_cons_self
    rw [List.cons_append] at hnone
    rw [List.cons_append, clauseAndSource?_cons hnone, ih', hc]
    simp
    omega

/-- A semicolon ends the search for a source. -/
theorem clauseAndSource?_semicolon (hstop : ∀ c ∈ cs, isClauseStop c = false) :
    clauseAndSource? before (cs ++ ';' :: rest) = none := by
  induction cs generalizing before with
  | nil =>
    have hnone : fromSource? (';' :: rest) = none :=
      fromSource?_eq_none rest (List.forall_mem_nil _) (by decide) fun _ _ _ _ _ => rfl
    rw [List.nil_append, clauseAndSource?_cons hnone]
    rfl
  | cons c cs ih =>
    have hnone : fromSource? (c :: cs ++ ';' :: rest) = none :=
      fromSource?_eq_none rest hstop (by decide) fun _ _ _ _ _ => rfl
    rw [List.cons_append] at hnone ⊢
    rw [clauseAndSource?_cons hnone, ih fun d hd => hstop d (List.mem_cons_of_mem _ hd),
      Option.map_none, ite_self]

/-- Blanks, a clause and a source behind the keyword. -/
theorem staticImport?_run (l : Literal) (rest : List Char) (hne : run ≠ [])
    (hrun : ∀ c ∈ run, isBlank c = true) (ht : Tight cs)
    (hstop : ∀ c ∈ cs, isClauseStop c = false) :
    staticImport? ("import".toList ++ (run ++ (cs ++ (" from ".toList ++ (l.text ++ rest))))) =
      some ⟨(cs, l.source), 6 + (run.length + (cs.length + (6 + l.text.length)))⟩ := by
  have hleaves : Leaves isBlank (cs ++ (" from ".toList ++ (l.text ++ rest))) :=
    (leaves_append_of_ne_nil ht.ne_nil).2 ht.starts
  have hfew : ¬ run.length < 1 := by simpa [Nat.pos_iff_ne_zero] using hne
  have hopen : ((cs ++ (" from ".toList ++ (l.text ++ rest))).head? == some '(') = false := by
    obtain ⟨c, cs, rfl⟩ := List.exists_cons_of_ne_nil ht.ne_nil
    have hc : c ≠ '(' := by
      rintro rfl
      exact absurd (hstop '(' List.mem_cons_self) (by decide)
    simp [hc]
  rw [staticImport?, behind_append, behindBlanks_run hrun hleaves, if_neg hfew, importBody?, hopen,
    clauseAndSource?_text ' ' l hstop ht.ends]
  simp [Found.longer]

theorem Clause.isClauseStop_of_mem (clause : Clause) :
    ∀ c ∈ clause.text, isClauseStop c = false := by
  intro c hc
  rcases clause.mem_text c hc with h | rfl | rfl
  · have hne : ∀ d ∈ [';', '\'', '"', '\x60', '(', ')'], c ≠ d := forall_ne_of_class h (by decide)
    simpa [isClauseStop, and_assoc] using hne
  all_goals decide

theorem staticImport?_clause (clause : Clause) (l : Literal) (rest : List Char) :
    staticImport? ("import ".toList ++ (clause.text ++ (" from ".toList ++ (l.text ++ rest)))) =
      some ⟨(clause.text, l.source), 7 + (clause.text.length + (6 + l.text.length))⟩ := by
  have h := staticImport?_run l rest (by simp) isBlank_of_mem_space clause.tight
    clause.isClauseStop_of_mem
  rw [show "import ".toList = "import".toList ++ [' '] from rfl, List.append_assoc, h]
  simp
  omega

theorem Clause.importText_ne_nil (clause : Clause) (l : Literal) : clause.importText l ≠ [] :=
  List.cons_ne_nil _ _

/-- An import of a clause is read whole. -/
theorem Clause.staticImport?_importText (clause : Clause) (l : Literal) (rest : List Char) :
    staticImport? (clause.importText l ++ rest) =
      some ⟨(clause.text, l.source), (clause.importText l).length⟩ := by
  have hread := staticImport?_clause clause l rest
  have hlength : (clause.importText l).length = 7 + (clause.text.length + (6 + l.text.length)) := by
    rw [clause.importText_eq]
    simp
    omega
  rw [hlength, ← hread, clause.importText_eq]
  simp only [List.append_assoc]

theorem staticImport?_bare (l : Literal) :
    staticImport? ("import ".toList ++ (l.text ++ rest)) =
      some ⟨([], l.source), 7 + l.text.length⟩ := by
  have hopen : ((l.text ++ rest).head? == some '(') = false := by
    rcases l.isQuote with h | h <;> simp [Literal.text, h]
  have hfrom : fromSource? (l.text ++ rest) = none := by
    rw [fromSource?, behindBlanks_of_leaves (leaves_text l)]
    rcases l.isQuote with h | h <;> simp [Literal.text, h, behind, afterStart]
  have hclause : clauseAndSource? ' ' (l.text ++ rest) = none := by
    rw [Literal.text, List.cons_append] at hfrom ⊢
    rw [clauseAndSource?_cons hfrom, if_pos l.isClauseStop_quote]
  rw [show "import ".toList = "import".toList ++ [' '] from rfl, List.append_assoc, staticImport?,
    behind_append, behindBlanks_run isBlank_of_mem_space (leaves_text l), importBody?, hopen,
    hclause, quotedSource?_text]
  simp [Found.longer]
  omega

theorem reexport?_of_body (hne : cs ≠ []) (h : cs.head? = some '*' ∨ cs.head? = some '\x7b') :
    reexport? ("export ".toList ++ cs) = (reexportBody? cs).map (·.longer 7) := by
  obtain ⟨c, cs, rfl⟩ := List.exists_cons_of_ne_nil hne
  have hleaves : Leaves isBlank (c :: cs) := by
    rcases h with h | h <;> cases h <;> exact leaves_cons.2 (by decide)
  have htype : behind "type" (behindBlanks 1 reexportBody?) (c :: cs) = none := by
    rcases h with h | h <;> cases h <;> simp [behind, afterStart]
  rw [show "export ".toList = "export".toList ++ [' '] from rfl, List.append_assoc, reexport?,
    behind_append, behindBlanks_run isBlank_of_mem_space hleaves, htype]
  simp [Function.comp_def]

theorem reexport?_all (l : Literal) :
    reexport? ("export *".toList ++ (" from ".toList ++ (l.text ++ rest))) =
      some ⟨(['*'], l.source), 8 + (6 + l.text.length)⟩ := by
  have has : starAs? (" from ".toList ++ (l.text ++ rest)) = none := by
    simp [starAs?, isBlank, blankRanges, CharRanges.has, afterStart]
  rw [show "export *".toList = "export ".toList ++ ['*'] from rfl, List.append_assoc,
    reexport?_of_body (by simp) (.inl rfl)]
  simp only [List.cons_append, List.nil_append, reexportBody?]
  rw [has, fromSource?_text]
  simp [Found.longer]
  omega

theorem starAs?_text (n : Identifier) (l : Literal) :
    starAs? (" as ".toList ++ (n.name ++ (" from ".toList ++ (l.text ++ rest)))) =
      some ⟨(starAs n, l.source), (starAs n).length + (6 + l.text.length)⟩ := by
  have hname : Leaves isBlank (n.name ++ (" from ".toList ++ (l.text ++ rest))) :=
    (leaves_append_of_ne_nil n.ne_nil).2 n.tight.starts
  have hlead : (" as ".toList ++ (n.name ++ (" from ".toList ++ (l.text ++ rest)))).takeWhile isBlank =
      [' '] := takeWhile_blank (leaves_cons.2 (by decide))
  have hgap : (' ' :: (n.name ++ (" from ".toList ++ (l.text ++ rest)))).takeWhile isBlank = [' '] :=
    takeWhile_blank hname
  have hword : (n.name ++ (" from ".toList ++ (l.text ++ rest))).takeWhile isName = n.name :=
    takeWhile_run n.isName_of_mem (leaves_cons.2 (by decide))
  have hafter : afterStart "as".toList
      ((" as ".toList ++ (n.name ++ (" from ".toList ++ (l.text ++ rest)))).drop 1) =
        some (' ' :: (n.name ++ (" from ".toList ++ (l.text ++ rest)))) :=
    afterStart_append
  have htaken : (" as ".toList ++ (n.name ++ (" from ".toList ++ (l.text ++ rest)))).take
      (1 + 2 + 1 + n.name.length) = " as ".toList ++ n.name := by
    rw [← List.append_assoc, List.take_left' (by simp; omega)]
  unfold starAs?
  simp only [hlead, List.length_singleton, hafter, hgap, List.drop_succ_cons, List.drop_zero, hword,
    List.drop_left, fromSource?_text, htaken]
  simp [starAs_eq, n.ne_nil]

theorem reexport?_star (n : Identifier) (l : Literal) :
    reexport? ("export ".toList ++ (starAs n ++ (" from ".toList ++ (l.text ++ rest)))) =
      some ⟨(starAs n, l.source), 7 + ((starAs n).length + (6 + l.text.length))⟩ := by
  have hstar : starAs n ++ (" from ".toList ++ (l.text ++ rest)) =
      '*' :: (" as ".toList ++ (n.name ++ (" from ".toList ++ (l.text ++ rest)))) := by
    simp [starAs_eq]
  rw [reexport?_of_body (by simp [starAs_eq]) (.inl (by rw [hstar]; rfl)), hstar]
  simp only [reexportBody?, beq_self_eq_true, if_true]
  rw [starAs?_text]
  rfl

theorem reexport?_braces (bs : List Binding) (l : Literal) :
    reexport? ("export ".toList ++ (braces bs ++ (" from ".toList ++ (l.text ++ rest)))) =
      some ⟨(braces bs, l.source), 7 + ((braces bs).length + (6 + l.text.length))⟩ := by
  have hbraces : braces bs ++ (" from ".toList ++ (l.text ++ rest)) =
      '\x7b' :: (listed bs ++ '\x7d' :: (" from ".toList ++ (l.text ++ rest))) := by
    simp [braces]
  have hinner : ∀ c ∈ listed bs, (c != '\x7b' && c != '\x7d') = true := by
    intro c hc
    have hpart := isPart_of_mem_listed bs c hc
    simpa using ⟨ne_of_class hpart (by decide), ne_of_class hpart (by decide)⟩
  have hbody : reexportBody? (braces bs ++ (" from ".toList ++ (l.text ++ rest))) =
      some ⟨(braces bs, l.source), (braces bs).length + (6 + l.text.length)⟩ := by
    have hclose : Leaves (fun c => c != '\x7b' && c != '\x7d')
        ('\x7d' :: (" from ".toList ++ (l.text ++ rest))) := leaves_cons.2 (by decide)
    rw [hbraces, reexportBody?]
    simp only [takeWhile_run hinner hclose, List.drop_left, fromSource?_text]
    simp [braces]
  rw [reexport?_of_body (by simp [braces]) (.inr (by rw [hbraces]; rfl)), hbody]
  rfl

theorem dynamicImport?_import (hleaves : Leaves isBlank cs) (hopen : cs.head? ≠ some '(') :
    dynamicImport? ("import ".toList ++ cs) = none := by
  have hnone : behind "(" (behindBlanks 0 argument?) cs = none :=
    behind_eq_none fun r hr => absurd (by rw [hr]; rfl) hopen
  rw [show "import ".toList = "import".toList ++ [' '] from rfl, List.append_assoc, dynamicImport?,
    behind_append, behindBlanks_run isBlank_of_mem_space hleaves, hnone]
  rfl

theorem Clause.dynamicImport?_importText (clause : Clause) (l : Literal) (rest : List Char) :
    dynamicImport? (clause.importText l ++ rest) = none := by
  have hleaves : Leaves isBlank (clause.text ++ (" from ".toList ++ l.text) ++ rest) := by
    rw [List.append_assoc]
    exact (leaves_append_of_ne_nil clause.tight.ne_nil).2 clause.tight.starts
  have hopen : (clause.text ++ (" from ".toList ++ l.text) ++ rest).head? ≠ some '(' := by
    obtain ⟨c, cs, hcs⟩ := List.exists_cons_of_ne_nil clause.tight.ne_nil
    have hc := clause.isClauseStop_of_mem c (by simp [hcs])
    rw [hcs]
    rintro h
    cases h
    exact absurd hc (by decide)
  rw [clause.importText_eq, List.append_assoc]
  exact dynamicImport?_import hleaves hopen

theorem behind_paren {α : Type} (x : α) :
    behindBlanks 0 (behind ")" fun _ => some ⟨x, 0⟩) (")".toList ++ rest) = some ⟨x, 1⟩ := by
  have hleaves : Leaves isBlank (")".toList ++ rest) := leaves_cons.2 (by decide)
  rw [behindBlanks_of_leaves hleaves, behind_append]
  rfl

theorem requireCall?_text (l : Literal) (rest : List Char) :
    requireCall? (" require(".toList ++ (l.text ++ (")".toList ++ rest))) =
      some ⟨l.source, 9 + (l.text.length + 1)⟩ := by
  have hleaves :
      Leaves isBlank ("require".toList ++ ("(".toList ++ (l.text ++ (")".toList ++ rest)))) :=
    leaves_cons.2 (by decide)
  have hopen : Leaves isBlank ("(".toList ++ (l.text ++ (")".toList ++ rest))) :=
    leaves_cons.2 (by decide)
  rw [show " require(".toList = [' '] ++ ("require".toList ++ "(".toList) from rfl,
    List.append_assoc, List.append_assoc, requireCall?,
    behindBlanks_run isBlank_of_mem_space hleaves, behind_append, behindBlanks_of_leaves hopen,
    behind_append, behindBlanks_of_leaves (leaves_text l), quotedSource?_text]
  simp only [Option.bind_some, List.drop_left]
  rw [behind_paren]
  simp [Found.longer]
  omega

theorem dynamicImport?_text (l : Literal) :
    dynamicImport? ("import(".toList ++ (l.text ++ (")".toList ++ rest))) =
      some ⟨l.source, 7 + (l.text.length + 1)⟩ := by
  have hopen : Leaves isBlank ("(".toList ++ (l.text ++ (")".toList ++ rest))) :=
    leaves_cons.2 (by decide)
  have hplain : ∀ c ∈ l.source, (isSourceChar c && c != '\x60') = true := by
    intro c hc
    simpa using ⟨(l.plain c hc).1, (l.plain c hc).2.1⟩
  have hquote :
      Leaves (fun c => isSourceChar c && c != '\x60') (l.quote :: (")".toList ++ rest)) := by
    rcases l.isQuote with h | h <;> rw [h] <;> exact leaves_cons.2 (by decide)
  have hargument :
      argument? (l.text ++ (")".toList ++ rest)) = some ⟨l.source, l.text.length + 1⟩ := by
    have htext : l.text ++ (")".toList ++ rest) =
        l.quote :: (l.source ++ l.quote :: (")".toList ++ rest)) := by simp [Literal.text]
    have hbehind : (l.source ++ l.quote :: (")".toList ++ rest)).drop (l.source.length + 1) =
        ")".toList ++ rest := by
      rw [← List.drop_drop, List.drop_left]
      rfl
    rw [htext, argument?]
    simp only [takeWhile_run hplain hquote, List.drop_left, hbehind]
    rw [behind_paren]
    rcases l.isQuote with h | h <;> simp [h, l.ne_nil, Found.longer, Literal.text]
  rw [show "import(".toList = "import".toList ++ "(".toList from rfl, List.append_assoc,
    dynamicImport?, behind_append, behindBlanks_of_leaves hopen, behind_append,
    behindBlanks_of_leaves (leaves_text l), hargument]
  simp [Found.longer]
  omega

/-- What does not bring the search for an equals sign to another place. -/
def Nesting.passes : Nesting → Char → Bool
  | .outside, c => !(['=', '\x7b', '[', ';', '\x7d', ']'].contains c)
  | .inside o e, c => c != o && c != e

theorem passes_outside_of_isPart (h : isPart c = true) : Nesting.outside.passes c = true := by
  have hne : ∀ d ∈ ['=', '\x7b', '[', ';', '\x7d', ']'], c ≠ d := forall_ne_of_class h (by decide)
  simpa [Nesting.passes] using hne

theorem bindingCall?_append {nest : Nesting} (h : ∀ c ∈ cs, nest.passes c = true) :
    bindingCall? nest (cs ++ rest) = (bindingCall? nest rest).map (·.longer cs.length) := by
  induction cs with
  | nil =>
    cases hrest : bindingCall? nest rest <;> simp [hrest, Found.longer]
  | cons c cs ih =>
    have hc := h c List.mem_cons_self
    have ih' := ih fun d hd => h d (List.mem_cons_of_mem _ hd)
    cases nest with
    | outside =>
      simp only [Nesting.passes, List.contains_eq_mem, List.mem_cons, List.not_mem_nil, or_false,
        Bool.not_eq_true', decide_eq_false_iff_not, not_or] at hc
      obtain ⟨h₁, h₂, h₃, h₄, h₅, h₆⟩ := hc
      simp [bindingCall?, h₁, h₂, h₃, h₄, h₅, h₆, ih', Function.comp_def, Nat.add_comm]
    | inside o e =>
      simp only [Nesting.passes, Bool.and_eq_true, bne_iff_ne] at hc
      simp [bindingCall?, hc.1, hc.2, ih', Function.comp_def, Nat.add_comm]

theorem require?_const (hleaves : Leaves isBlank cs) :
    require? ("const ".toList ++ cs) = (bindingCall? .outside cs).map (·.longer 6) := by
  have hconst : behind "const" (behindBlanks 1 (bindingCall? .outside)) ("const ".toList ++ cs) =
      (bindingCall? .outside cs).map (·.longer 6) := by
    rw [show "const ".toList = "const".toList ++ [' '] from rfl, List.append_assoc, behind_append,
      behindBlanks_run isBlank_of_mem_space hleaves]
    simp [Function.comp_def]
  have hother : ∀ w ∈ ["let", "var", "import"],
      behind w (behindBlanks 1 (bindingCall? .outside)) ("const ".toList ++ cs) = none := by
    intro w hw
    refine behind_eq_none fun r hr => ?_
    simp only [List.mem_cons, List.not_mem_nil, or_false] at hw
    rcases hw with rfl | rfl | rfl <;> cases hr
  have hnone := List.findSome?_eq_none_iff.2 hother
  rw [require?, List.findSome?_cons, hconst, hnone]
  cases bindingCall? .outside cs <;> rfl

theorem require?_import (hleaves : Leaves isBlank cs) (h : bindingCall? .outside cs = none) :
    require? ("import ".toList ++ cs) = none := by
  unfold require?
  rw [List.findSome?_eq_none_iff]
  intro w hw
  refine behind_eq_none fun r hr => ?_
  simp only [List.mem_cons, List.not_mem_nil, or_false] at hw
  rcases hw with rfl | rfl | rfl | rfl
  · cases hr
  · cases hr
  · cases hr
  · obtain rfl : [' '] ++ cs = r := by
      rw [show "import ".toList = "import".toList ++ [' '] from rfl, List.append_assoc] at hr
      exact List.append_cancel_left hr
    rw [behindBlanks_run isBlank_of_mem_space hleaves, h]
    rfl

/-- A binding of a name is read up to the parenthesis that closes its call. -/
theorem bindingCall?_name (n : Identifier) (l : Literal) :
    bindingCall? .outside (n.name ++ (" = require(".toList ++ (l.text ++ (")".toList ++ rest)))) =
      some ⟨l.source, n.name.length + (2 + (9 + (l.text.length + 1)))⟩ := by
  have hname : ∀ c ∈ n.name ++ " ".toList, Nesting.outside.passes c = true :=
    List.forall_mem_append.2
      ⟨fun c hc => passes_outside_of_isPart (n.isPart_of_mem c hc), by decide⟩
  have hcall := requireCall?_text l rest
  have hequals : bindingCall? .outside
      ('=' :: (" require(".toList ++ (l.text ++ (")".toList ++ rest)))) =
        some ⟨l.source, 1 + (9 + (l.text.length + 1))⟩ := by
    rw [bindingCall?, hcall]
    rfl
  have htext : n.name ++ (" = require(".toList ++ (l.text ++ (")".toList ++ rest))) =
      n.name ++ " ".toList ++ '=' :: (" require(".toList ++ (l.text ++ (")".toList ++ rest))) := by
    simp
  rw [htext, bindingCall?_append hname, hequals]
  simp [Found.longer]
  omega

/-- The search goes through a clause to what follows it. -/
theorem bindingCall?_clause (clause : Clause) (h : bindingCall? .outside rest = none) :
    bindingCall? .outside (clause.text ++ rest) = none := by
  have hlead : ∀ c ∈ clause.lead, Nesting.outside.passes c = true :=
    fun c hc => passes_outside_of_isPart (clause.isPart_of_mem_lead c hc)
  have hbraced : bindingCall? .outside (clause.braced ++ rest) = none := by
    rcases clause.braced_eq with hnil | ⟨bs, hbs⟩
    · rwa [hnil]
    · have hlisted : ∀ c ∈ listed bs, (Nesting.inside '\x7b' '\x7d').passes c = true := by
        intro c hc
        have hc' := isPart_of_mem_listed bs c hc
        simpa [Nesting.passes] using ⟨ne_of_class hc' (by decide), ne_of_class hc' (by decide)⟩
      rw [hbs, braces, List.cons_append, List.append_assoc, bindingCall?]
      simp [bindingCall?_append hlisted, bindingCall?, h]
  rw [clause.text_eq, List.append_assoc, bindingCall?_append hlead, hbraced]
  rfl

end Coselect.Imports
