import Coselect.Proofs.Imports.Recognizers

/-! Inside a source nothing is read that stays on its line. A form that begins in a source has to go
through the quote that ends it, and then through what follows: a source of its own would need one
more quote on that line, the names of a re-export a closing brace before an opening one, and a
binding an equals sign before the next semicolon outside braces and brackets. -/

namespace Coselect.Imports

open Text

variable {α : Type} {read : List Char → Option (Found α)} {part : String} {before : Option Char}
  {cs s run rest tail : List Char} {c q : Char} {least : Nat}

/-- Characters of a source. -/
def Unquoted (s : List Char) : Prop := ∀ c ∈ s, isSourceChar c = true ∧ c ≠ backquote

theorem unquoted_nil : Unquoted [] := by simp [Unquoted]

theorem Unquoted.of_cons (h : Unquoted (c :: s)) : Unquoted s :=
  fun d hd => h d (List.mem_cons_of_mem _ hd)

theorem Unquoted.right (h : Unquoted (run ++ s)) : Unquoted s :=
  fun d hd => h d (List.mem_append_right _ hd)

theorem ne_quote_of_isSourceChar (h : isSourceChar c = true) : c ≠ '"' ∧ c ≠ '\'' := by
  simp only [isSourceChar, Bool.and_eq_true, bne_iff_ne, ne_eq] at h
  exact h.1

theorem quotedSource?_cons (h : c ≠ '"' ∧ c ≠ '\'') : quotedSource? (c :: cs) = none := by
  simp [quotedSource?, h.1, h.2]

/-- No quote stands on the rest of the line. -/
def QuoteFree (cs : List Char) : Prop := ∀ c ∈ cs.takeWhile (· != '\n'), c ≠ '"' ∧ c ≠ '\''

/-- Nothing is read where source characters lead up to a quote. -/
def NoneIn (read : List Char → Option (Found α)) (q : Char) (tail : List Char) : Prop :=
  ∀ s, Unquoted s → read (s ++ q :: tail) = none

/-- What leads up to a quote and holds none ends before it. -/
theorem exists_of_append_eq (hq : q ∉ run) (h : s ++ q :: tail = run ++ rest) :
    ∃ s', s = run ++ s' ∧ rest = s' ++ q :: tail := by
  rcases List.append_eq_append_iff.1 h with ⟨a, rfl, ha⟩ | ⟨a, rfl, ha⟩
  · cases a with
    | nil => exact ⟨[], by simp, by simpa using ha.symm⟩
    | cons d a =>
      obtain ⟨rfl, _⟩ := List.cons.inj ha
      simp at hq
  · exact ⟨a, rfl, ha⟩

theorem NoneIn.behind (hpart : q ∉ part.toList) (h : NoneIn read q tail) :
    NoneIn (behind part read) q tail := by
  intro s hs
  refine behind_eq_none fun rest heq => ?_
  obtain ⟨s', rfl, rfl⟩ := exists_of_append_eq hpart heq
  exact h s' hs.right

theorem NoneIn.behindBlanks (hq : isBlank q = false) (h : NoneIn read q tail) :
    NoneIn (behindBlanks least read) q tail := by
  intro s hs
  refine behindBlanks_eq_none fun run rest heq hrun _ => .inr ?_
  obtain ⟨s', rfl, rfl⟩ := exists_of_append_eq (notMem_of_class hrun hq) heq
  exact h s' hs.right

/-- A run that ends at a quote, or at the end of the line, ends at the latter. -/
theorem QuoteFree.head?_dropWhile_ne {p : Char → Bool} (h : QuoteFree tail) (hp : p '\n' = false)
    (hq : q = '"' ∨ q = '\'') : (tail.dropWhile p).head? ≠ some q := by
  intro hhead
  obtain ⟨rest, hrest⟩ : ∃ rest, tail.dropWhile p = q :: rest := by
    cases hdrop : tail.dropWhile p <;> simp_all
  have hrun : ∀ c ∈ tail.takeWhile p, (c != '\n') = true := by
    intro c hc
    have hmem := List.mem_takeWhile_imp hc
    rw [bne_iff_ne]
    rintro rfl
    simp [hp] at hmem
  have hline : (q != '\n') = true := by rcases hq with rfl | rfl <;> decide
  have hmem : q ∈ tail.takeWhile (· != '\n') := by
    rw [← List.takeWhile_append_dropWhile (p := p) (l := tail), hrest,
      List.takeWhile_append_of_pos hrun, List.takeWhile_cons, if_pos hline]
    simp
  rcases hq with rfl | rfl
  · exact (h _ hmem).1 rfl
  · exact (h _ hmem).2 rfl

/-- Where no source follows a clause, the clause goes on with the next character. -/
theorem clauseAndSource?_cons {before : Char} (h : fromSource? (c :: cs) = none) :
    clauseAndSource? before (c :: cs) =
      if isClauseStop c then none
      else (clauseAndSource? c cs).map fun f => ⟨(c :: f.what.1, f.what.2), f.length + 1⟩ := by
  rw [clauseAndSource?.eq_def before]
  simp only [h, ite_self]

section

variable (hq : q = '"' ∨ q = '\'') (htail : QuoteFree tail)

include hq

theorem isBlank_of_quote : isBlank q = false := by rcases hq with rfl | rfl <;> decide

theorem isName_of_quote : isName q = false := by rcases hq with rfl | rfl <;> decide

theorem ne_of_quote (hc : isSourceChar c = true) : c ≠ q := by
  rcases hq with rfl | rfl
  · exact (ne_quote_of_isSourceChar hc).1
  · exact (ne_quote_of_isSourceChar hc).2

include htail

theorem quotedSource?_noneIn : NoneIn quotedSource? q tail := by
  intro s hs
  cases s with
  | nil =>
    have hhead := htail.head?_dropWhile_ne (p := isSourceChar) (by decide) hq
    simp [quotedSource?, drop_length_takeWhile, hhead]
  | cons c s =>
    exact quotedSource?_cons (ne_quote_of_isSourceChar (hs c List.mem_cons_self).1)

theorem fromSource?_noneIn : NoneIn fromSource? q tail := by
  have hfrom : q ∉ "from".toList := by rcases hq with rfl | rfl <;> decide
  have hblank := isBlank_of_quote hq
  exact (((quotedSource?_noneIn hq htail).behindBlanks hblank).behind hfrom).behindBlanks hblank

theorem clauseAndSource?_noneIn (before : Char) : NoneIn (clauseAndSource? before) q tail := by
  intro s hs
  have hfrom := fromSource?_noneIn hq htail
  induction s generalizing before with
  | nil =>
    have hstop : isClauseStop q = true := by rcases hq with rfl | rfl <;> decide
    have hnone : fromSource? (q :: tail) = none := hfrom [] unquoted_nil
    rw [List.nil_append, clauseAndSource?_cons hnone, if_pos hstop]
  | cons c s ih =>
    have hnone : fromSource? (c :: (s ++ q :: tail)) = none := hfrom (c :: s) hs
    rw [List.cons_append, clauseAndSource?_cons hnone, ih c hs.of_cons, Option.map_none, ite_self]

theorem staticImport?_noneIn : NoneIn staticImport? q tail := by
  have himport : q ∉ "import".toList := by rcases hq with rfl | rfl <;> decide
  refine NoneIn.behind himport (NoneIn.behindBlanks (isBlank_of_quote hq) fun s hs => ?_)
  unfold importBody?
  rw [clauseAndSource?_noneIn hq htail ' ' s hs, quotedSource?_noneIn hq htail s hs]
  split <;> rfl

theorem argument?_noneIn : NoneIn argument? q tail := by
  intro s hs
  cases s with
  | nil =>
    have hhead := htail.head?_dropWhile_ne (p := fun c => isSourceChar c && c != '\x60')
      (by decide) hq
    simp [argument?, drop_length_takeWhile, hhead]
  | cons c s =>
    obtain ⟨hc, hback⟩ := hs c List.mem_cons_self
    have hne := ne_quote_of_isSourceChar hc
    have hback' : c ≠ '\x60' := hback
    simp [argument?, hne.1, hne.2, hback']

theorem dynamicImport?_noneIn : NoneIn dynamicImport? q tail := by
  have himport : q ∉ "import".toList := by rcases hq with rfl | rfl <;> decide
  have hopen : q ∉ "(".toList := by rcases hq with rfl | rfl <;> decide
  have hblank := isBlank_of_quote hq
  exact ((((argument?_noneIn hq htail).behindBlanks hblank).behind hopen).behindBlanks
    hblank).behind himport

theorem requireCall?_noneIn : NoneIn requireCall? q tail := by
  have hrequire : q ∉ "require".toList := by rcases hq with rfl | rfl <;> decide
  have hopen : q ∉ "(".toList := by rcases hq with rfl | rfl <;> decide
  have hblank := isBlank_of_quote hq
  refine NoneIn.behindBlanks hblank (NoneIn.behind hrequire (NoneIn.behindBlanks hblank
    (NoneIn.behind hopen (NoneIn.behindBlanks hblank fun s hs => ?_))))
  rw [quotedSource?_noneIn hq htail s hs]
  rfl

theorem starAs?_noneIn : NoneIn starAs? q tail := by
  have has : q ∉ "as".toList := by rcases hq with rfl | rfl <;> decide
  have hblank := isBlank_of_quote hq
  intro s hs
  obtain ⟨lead, cs, heq, hlead, hcs⟩ := exists_run isBlank (s ++ q :: tail)
  obtain ⟨s₁, rfl, rfl⟩ := exists_of_append_eq (notMem_of_class hlead hblank) heq
  unfold starAs?
  simp only [drop_length_takeWhile, List.append_assoc, dropWhile_run hlead hcs]
  split
  next => rfl
  next rest hrest =>
    obtain ⟨s₂, rfl, rfl⟩ := exists_of_append_eq has (afterStart_eq_some_iff.1 hrest)
    obtain ⟨gap, cs₂, heq₂, hgap, hcs₂⟩ := exists_run isBlank (s₂ ++ q :: tail)
    obtain ⟨s₃, rfl, rfl⟩ := exists_of_append_eq (notMem_of_class hgap hblank) heq₂
    have hs₃ : Unquoted s₃ := hs.right.right.right
    -- The name ends before the quote, so every place in it still stands inside the source.
    have hname : ((s₃ ++ q :: tail).takeWhile isName).length ≤ s₃.length := by
      obtain ⟨name, cs₃, heq₃, hname, hcs₃⟩ := exists_run isName (s₃ ++ q :: tail)
      obtain ⟨s₄, rfl, rfl⟩ :=
        exists_of_append_eq (notMem_of_class hname (isName_of_quote hq)) heq₃
      rw [List.append_assoc, takeWhile_run hname hcs₃, List.length_append]
      omega
    have hfrom : ∀ n ≤ s₃.length, fromSource? ((s₃ ++ q :: tail).drop n) = none := by
      intro n hn
      rw [List.drop_append_of_le_length hn]
      exact fromSource?_noneIn hq htail _ fun c hc => hs₃ c (List.mem_of_mem_drop hc)
    have hwhole : fromSource? ((s₃ ++ q :: tail).dropWhile isName) = none := by
      rw [← drop_length_takeWhile]
      exact hfrom _ hname
    simp only [List.append_assoc, dropWhile_run hgap hcs₂, hwhole]
    split
    next => rfl
    next =>
      rw [hfrom _ (by omega)]
      split <;> rfl

end

/-- Behind the first brace, if that is a closing one, stands no source. -/
def BraceShut (cs : List Char) : Prop :=
  ∀ u v, cs = u ++ '\x7d' :: v → '\x7b' ∉ u → '\x7d' ∉ u → fromSource? v = none

theorem BraceShut.reexportBody? (h : BraceShut cs) : reexportBody? ('\x7b' :: cs) = none := by
  obtain ⟨inner, rest, rfl, hinner, hrest⟩ :=
    exists_run (fun d => d != '\x7b' && d != '\x7d') cs
  have hnotMem : '\x7b' ∉ inner ∧ '\x7d' ∉ inner :=
    ⟨fun hmem => by simpa using hinner _ hmem, fun hmem => by simpa using hinner _ hmem⟩
  unfold Imports.reexportBody?
  simp only [takeWhile_run hinner hrest, List.drop_left]
  cases rest with
  | nil => rfl
  | cons d rest =>
    by_cases hd : d = '\x7d'
    · subst hd
      simp [h inner rest rfl hnotMem.1 hnotMem.2]
    · simp [hd]

theorem BraceShut.within (h : BraceShut tail) (hq : q = '"' ∨ q = '\'') (htail : QuoteFree tail)
    (hs : Unquoted s) : BraceShut (s ++ q :: tail) := by
  have hne : q ≠ '\x7d' := by rcases hq with rfl | rfl <;> decide
  intro u v heq hopen hclose
  rcases List.append_eq_append_iff.1 heq with ⟨a, rfl, ha⟩ | ⟨a, rfl, ha⟩
  · cases a with
    | nil => exact absurd (List.cons.inj ha).1 hne
    | cons d a =>
      obtain ⟨rfl, rfl⟩ := List.cons.inj ha
      simp only [List.mem_append, List.mem_cons, not_or] at hopen hclose
      exact h a v rfl hopen.2.2 hclose.2.2
  · cases a with
    | nil => exact absurd (List.cons.inj ha).1.symm hne
    | cons d a =>
      obtain ⟨rfl, rfl⟩ := List.cons.inj ha
      exact fromSource?_noneIn hq htail a hs.right.of_cons

theorem reexport?_noneIn (hq : q = '"' ∨ q = '\'') (htail : QuoteFree tail) (h : BraceShut tail) :
    NoneIn reexport? q tail := by
  have hexport : q ∉ "export".toList := by rcases hq with rfl | rfl <;> decide
  have htype : q ∉ "type".toList := by rcases hq with rfl | rfl <;> decide
  have hblank := isBlank_of_quote hq
  have hbody : NoneIn reexportBody? q tail := by
    intro s hs
    cases s with
    | nil => rcases hq with rfl | rfl <;> rfl
    | cons c s =>
      by_cases hstar : c = '*'
      · subst hstar
        simp [reexportBody?, starAs?_noneIn hq htail s hs.of_cons,
          fromSource?_noneIn hq htail s hs.of_cons]
      · by_cases hopen : c = '\x7b'
        · subst hopen
          exact (h.within hq htail hs.of_cons).reexportBody?
        · simp [reexportBody?, hstar, hopen]
  refine NoneIn.behind hexport (NoneIn.behindBlanks hblank fun s hs => ?_)
  rw [(hbody.behindBlanks hblank).behind htype s hs, hbody s hs]

/-- Wherever the search for an equals sign stands, it finds none that a call follows. -/
structure Unbound (cs : List Char) : Prop where
  outside : bindingCall? .outside cs = none
  inBraces : bindingCall? (.inside '\x7b' '\x7d') cs = none
  inBrackets : bindingCall? (.inside '[' ']') cs = none

theorem Unbound.cons (h : Unbound cs) (hcall : requireCall? cs = none) : Unbound (c :: cs) := by
  refine ⟨?_, ?_, ?_⟩
  · unfold bindingCall?
    simp [h.outside, h.inBraces, h.inBrackets, hcall]
  · unfold bindingCall?
    by_cases hc : c = '\x7d' <;> simp [hc, h.outside, h.inBraces]
  · unfold bindingCall?
    by_cases hc : c = ']' <;> simp [hc, h.outside, h.inBrackets]

theorem Unbound.within (h : Unbound (q :: tail)) (hq : q = '"' ∨ q = '\'') (htail : QuoteFree tail)
    (hs : Unquoted s) : Unbound (s ++ q :: tail) := by
  induction s with
  | nil => exact h
  | cons c s ih => exact (ih hs.of_cons).cons (requireCall?_noneIn hq htail s hs.of_cons)

/-- A source leads the search no further than what follows it. -/
theorem Unbound.text {l : Literal} (h : Unbound (l.quote :: tail)) (htail : QuoteFree tail) :
    Unbound (l.text ++ tail) := by
  have hs : Unquoted l.source := fun c hc => ⟨(l.plain c hc).1, (l.plain c hc).2.1⟩
  have htext : l.text ++ tail = l.quote :: (l.source ++ l.quote :: tail) := by simp [Literal.text]
  rw [htext]
  exact (h.within l.isQuote htail hs).cons (requireCall?_noneIn l.isQuote htail _ hs)

theorem require?_noneIn (hq : q = '"' ∨ q = '\'') (htail : QuoteFree tail)
    (h : Unbound (q :: tail)) : NoneIn require? q tail := by
  intro s hs
  unfold require?
  rw [List.findSome?_eq_none_iff]
  intro keyword hmem
  have hkeyword : q ∉ keyword.toList := by
    have hall : ∀ w ∈ ["const", "let", "var", "import"],
        '"' ∉ w.toList ∧ '\'' ∉ w.toList := by decide
    rcases hq with rfl | rfl
    · exact (hall keyword hmem).1
    · exact (hall keyword hmem).2
  exact NoneIn.behind hkeyword (NoneIn.behindBlanks (isBlank_of_quote hq) fun s hs =>
    (h.within hq htail hs).outside) s hs

/-- A form in which nothing begins: neither at its keyword, nor at a word behind that, nor inside
its source. -/
theorem silent_form {l : Literal} {keyword words : List Char}
    (hread : ∀ cs, keywordAt cs = none → read cs = none)
    (hkeyword : ∀ c ∈ keyword, isName c = true)
    (hwords : ∀ {before rest}, Silent keywordAt before words rest)
    (hnone : read (keyword ++ (words ++ (l.text ++ rest))) = none)
    (hin : NoneIn read l.quote rest) {before : Option Char} :
    Silent read before (keyword ++ (words ++ l.text)) rest := by
  have hquote := isName_of_quote l.isQuote
  have hend : ∀ {before cs}, Silent read before [l.quote] cs := by
    intro before cs
    refine Silent.of_keywordAt hread ?_
    rw [silent_cons_of_not_isName hquote]
    exact silent_nil
  have hsource : ∀ {before}, Silent read before l.source (l.quote :: rest) := by
    intro before u v hs _ _
    refine hin v fun c hc => ?_
    have hmem := l.plain c (by simp [hs, hc])
    exact ⟨hmem.1, hmem.2.1⟩
  rw [silent_append, List.append_assoc, silent_append]
  refine ⟨silent_word hkeyword hnone, Silent.of_keywordAt hread hwords, ?_⟩
  rw [show l.text = [l.quote] ++ (l.source ++ [l.quote]) from rfl, silent_append, silent_append]
  exact ⟨hend, hsource, hend⟩

end Coselect.Imports
