import Coselect.Alias.Mapping
import Coselect.Glob.Piece
import Coselect.Proofs.Text.Replace

/-! Alias patterns as expressions. The expression of a pattern is its text with every special
character quoted, in which every quoted star is replaced by a group that takes any characters of a
line; the marks for the two ends of a text stand around it. Read back mark by mark it is the pattern:
no character of a pattern is taken for a mark of another kind, and the first group of the expression
captures what the first star of the pattern stands for. -/

namespace Coselect.Alias

open Text

variable {α : Type} {c : Char} {cs pattern rest s : List Char} {b : Bool}

/-- The character itself, behind a backslash if it is special. -/
def quoted (c : Char) : List Char := if Glob.isSpecial c then ['\\', c] else [c]

def quote (cs : List Char) : List Char := cs.flatMap quoted

def expression (pattern : List Char) : List Char :=
  '^' :: replaceFrom ['\\', '*'] ['(', '.', '*', ')'] 0 (quote pattern) ++ ['$']

inductive Mark
  /-- The start of the text. -/
  | start
  /-- The end of the text, or its last line feed. -/
  | finish
  /-- The character itself. -/
  | char (c : Char)
  /-- Any characters of a line, as many as possible; they are captured. -/
  | group
  deriving DecidableEq, Repr

/-- The marks of an expression; none where there are other marks in it. -/
def marks? : List Char → Option (List Mark)
  | [] => some []
  | '^' :: cs => (marks? cs).map (.start :: ·)
  | '$' :: cs => (marks? cs).map (.finish :: ·)
  | '(' :: '.' :: '*' :: ')' :: cs => (marks? cs).map (.group :: ·)
  | '\\' :: c :: cs => if Glob.isSpecial c then (marks? cs).map (.char c :: ·) else none
  | c :: cs => if Glob.isSpecial c then none else (marks? cs).map (.char c :: ·)

/-- The most characters of a line after which there is a way on, and what that comes to. The flag
says whether nothing of the text has been passed. -/
def greedy (next : Bool → List Char → Option α) : Bool → List Char → Option (List Char × α)
  | b, [] => (next b []).map ([], ·)
  | b, c :: cs =>
    match if c == '\n' then none else greedy next false cs with
    | some (part, a) => some (c :: part, a)
    | none => (next b (c :: cs)).map ([], ·)

/-- What the groups of an expression capture where it matches the beginning of a text. -/
def captures? : List Mark → Bool → List Char → Option (List (List Char))
  | [], _, _ => some []
  | .start :: ms, b, s => if b then captures? ms b s else none
  | .finish :: ms, b, s => if s.isEmpty || s == ['\n'] then captures? ms b s else none
  | .char c :: ms, _, s =>
    match s with
    | d :: s => if c == d then captures? ms false s else none
    | [] => none
  | .group :: ms, b, s => (greedy (captures? ms) b s).map fun (part, rest) => part :: rest

/-- What the first group of a pattern's expression captures; empty where it has no group. -/
def firstGroup? (pattern s : List Char) : Option (List Char) :=
  (marks? (expression pattern)).bind fun ms => (captures? ms true s).map (·.headD [])

/-! ### The text of an expression -/

/-- What becomes of a character of a pattern. -/
def expressed (c : Char) : List Char := if c = '*' then ['(', '.', '*', ')'] else quoted c

def markOf (c : Char) : Mark := if c = '*' then .group else .char c

theorem quote_cons : quote (c :: cs) = quoted c ++ quote cs := List.flatMap_cons

/-- A quoted text does not begin with a star. -/
theorem head?_quote (cs : List Char) : (quote cs).head? ≠ some '*' := by
  cases cs with
  | nil => simp [quote]
  | cons c cs =>
    rw [quote_cons, quoted]
    split
    next => simp
    next hplain =>
      simp only [List.cons_append, List.nil_append, List.head?_cons, Option.some.injEq, ne_eq]
      rintro rfl
      exact hplain (by decide +kernel)

theorem replaceFrom_backslash (h : rest.head? ≠ some '*') (new : List Char) :
    replaceFrom ['\\', '*'] new 0 (c :: rest) = c :: replaceFrom ['\\', '*'] new 0 rest := by
  refine replaceFrom_cons_of_none ?_
  cases rest with
  | nil => simp [afterStart]
  | cons d rest =>
    have hd : ('*' == d) = false := beq_eq_false_iff_ne.2 fun e => h (by rw [e]; rfl)
    simp [afterStart, hd]

/-- The star of a quoted text is replaced, and everything else stays as it is. -/
theorem replaceFrom_quote (cs : List Char) :
    replaceFrom ['\\', '*'] ['(', '.', '*', ')'] 0 (quote cs) = cs.flatMap expressed := by
  induction cs with
  | nil => rfl
  | cons c cs ih =>
    rw [quote_cons, List.flatMap_cons, expressed, quoted]
    by_cases hstar : c = '*'
    · subst hstar
      have hspecial : Glob.isSpecial '*' = true := by decide +kernel
      simp [hspecial, replaceFrom, afterStart, ih]
    have hrest := replaceFrom_backslash (c := c) (head?_quote cs) ['(', '.', '*', ')']
    rw [if_neg hstar]
    split
    next =>
      have hc : (c :: quote cs).head? ≠ some '*' := by simpa using hstar
      rw [List.cons_append, List.cons_append, List.nil_append, replaceFrom_backslash hc, hrest, ih]
      rfl
    next => rw [List.cons_append, List.nil_append, hrest, ih]; rfl

theorem marks?_plain (h : Glob.isSpecial c = false) (cs : List Char) :
    marks? (c :: cs) = (marks? cs).map (.char c :: ·) := by
  have hne : ∀ d, Glob.isSpecial d = true → c ≠ d := by
    rintro d hd rfl
    simp [h] at hd
  have hstart := hne '^' (by decide +kernel)
  have hfinish := hne '$' (by decide +kernel)
  have hgroup := hne '(' (by decide +kernel)
  have hquote := hne '\\' (by decide +kernel)
  rw [marks?.eq_def]
  split <;> simp_all

theorem marks?_expressed (c : Char) (cs : List Char) :
    marks? (expressed c ++ cs) = (marks? cs).map (markOf c :: ·) := by
  rw [expressed, markOf]
  by_cases hstar : c = '*'
  · subst hstar
    rfl
  rw [if_neg hstar, if_neg hstar, quoted]
  split
  next hspecial =>
    rw [List.cons_append, List.cons_append, List.nil_append]
    simp [marks?, hspecial]
  next hplain => exact marks?_plain (Bool.eq_false_iff.2 hplain) cs

/-- An expression reads as the characters of its pattern, each star as a group. -/
theorem marks?_expression (pattern : List Char) :
    marks? (expression pattern) = some (.start :: pattern.map markOf ++ [.finish]) := by
  have hmarks : marks? (pattern.flatMap expressed ++ ['$']) =
      some (pattern.map markOf ++ [.finish]) := by
    induction pattern with
    | nil => rfl
    | cons c pattern ih => rw [List.flatMap_cons, List.append_assoc, marks?_expressed, ih]; rfl
  rw [expression, replaceFrom_quote, List.cons_append]
  simp [marks?, hmarks]

/-! ### The way through a text -/

theorem isSome_longest (ok : List Char → Bool) (s : List Char) :
    (longest ok s).isSome = afterLine ok s := by
  induction s with
  | nil => unfold longest afterLine; split <;> simp_all
  | cons c s ih =>
    unfold longest afterLine
    by_cases hc : c = '\n'
    · subst hc
      cases ok ('\n' :: s) <;> simp
    · cases hlongest : longest ok s <;> cases hok : ok (c :: s) <;> simp_all

/-- The longest way on, as far as it hangs on no more than whether there is one. -/
theorem map_fst_greedy {next : Bool → List Char → Option α} {ok : List Char → Bool}
    (h : ∀ b s, (next b s).isSome = ok s) (b : Bool) (s : List Char) :
    (greedy next b s).map Prod.fst = longest ok s := by
  have hnone : ∀ b s, ((next b s).map fun a => (([] : List Char), a)).map Prod.fst =
      if ok s then some [] else none := by
    intro b s
    rw [← h b s]
    cases next b s <;> simp
  induction s generalizing b with
  | nil => exact hnone b []
  | cons c s ih =>
    unfold greedy longest
    rw [← ih false]
    by_cases hc : c = '\n'
    · subst hc
      exact hnone b _
    · cases hgreedy : greedy next false s with
      | none => simpa [hc, hgreedy] using hnone b (c :: s)
      | some r => simp [hc]

/-- The marks of a pattern find a way through a text where the pattern takes it. -/
theorem isSome_captures? (b : Bool) (s : List Char) :
    (captures? (pattern.map markOf ++ [.finish]) b s).isSome = takes pattern s := by
  induction pattern generalizing b s with
  | nil => cases h : s.isEmpty || s == ['\n'] <;> simp [captures?, takes, h]
  | cons c pattern ih =>
    rw [List.map_cons, List.cons_append, markOf]
    by_cases hstar : c = '*'
    · subst hstar
      have hfirst := congrArg Option.isSome (map_fst_greedy ih b s)
      rw [isSome_longest, Option.isSome_map] at hfirst
      simpa [captures?, takes] using hfirst
    · cases s with
      | nil => simp [captures?, takes, hstar]
      | cons d s => by_cases hd : c == d <;> simp [captures?, takes, hstar, hd, ih]

/-- The first thing captured on this way is what the first star stands for. -/
theorem map_headD_captures? (pattern : List Char) (b : Bool) (s : List Char) :
    (captures? (pattern.map markOf ++ [.finish]) b s).map (·.headD []) = capture? pattern s := by
  induction pattern generalizing b s with
  | nil => cases h : s.isEmpty || s == ['\n'] <;> simp [captures?, capture?, h]
  | cons c pattern ih =>
    rw [List.map_cons, List.cons_append, markOf]
    by_cases hstar : c = '*'
    · subst hstar
      have hok : ∀ b s, (captures? (pattern.map markOf ++ [.finish]) b s).isSome = takes pattern s :=
        isSome_captures?
      have hfirst := map_fst_greedy hok b s
      simpa [captures?, capture?, Function.comp_def] using hfirst
    · cases s with
      | nil => simp [captures?, capture?, hstar]
      | cons d s => by_cases hd : c == d <;> simp_all [captures?, capture?]

theorem isSome_capture? (pattern s : List Char) : (capture? pattern s).isSome = takes pattern s := by
  rw [← map_headD_captures? pattern true s, Option.isSome_map, isSome_captures?]

theorem firstGroup?_eq_capture? (pattern s : List Char) :
    firstGroup? pattern s = capture? pattern s := by
  rw [firstGroup?, marks?_expression, Option.bind_some, List.cons_append]
  exact map_headD_captures? pattern true s

end Coselect.Alias
