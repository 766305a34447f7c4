import Coselect.Proofs.Imports.Comments

/-! The tokens of a text: literals, comments and single characters of code. Blanking takes the comments
away and nothing else, as long as no literal goes on behind an escaped line feed. -/

namespace Coselect.Imports

/-- A literal, a comment or a character that stands for itself. -/
inductive Token
  | code (c : Char)
  | literal (quote : Char) (body : List Char)
  | lineComment (body : List Char)
  | blockComment (body : List Char)

namespace Token

def text : Token → List Char
  | code c => [c]
  | literal q body => q :: (body ++ [q])
  | lineComment body => '/' :: '/' :: body
  | blockComment body => '/' :: '*' :: (body ++ ['*', '/'])

/-- The text in which a comment is blank. -/
def blanked : Token → List Char
  | code c => [c]
  | literal q body => (literal q body).text
  | lineComment body => (lineComment body).text.map blankChar
  | blockComment body => (blockComment body).text.map blankChar

/-- No line feed is escaped in it, if it is a literal. -/
def Unbroken : Token → Prop
  | literal q body => Body false q body
  | code _ | lineComment _ | blockComment _ => True

end Token

variable {continued : Bool} {q c : Char} {body cs rest rest' : List Char} {t t' : Token}
  {ts ts' : List Token}

/-- Stands at the start of a text, in front of a rest. A line comment goes up to the end of its line
and a block comment up to the first closer. -/
inductive Opens (continued : Bool) : Token → List Char → Prop
  | literal {q : Char} {body rest : List Char} (hquote : isQuote q = true)
      (hbody : Body continued q body) : Opens continued (.literal q body) rest
  | lineComment {body rest : List Char} (hbody : '\n' ∉ body) (hrest : ∀ c ∈ rest.head?, c = '\n') :
      Opens continued (.lineComment body) rest
  | blockComment {body rest : List Char} (hbody : ¬ "*/".toList <:+: body) :
      Opens continued (.blockComment body) rest

/-- The tokens of a text from left to right. Where neither a literal nor a comment opens, a character
stands for itself. With `continued` a literal goes on behind an escaped line feed. -/
inductive Lexes (continued : Bool) : List Char → List Token → Prop
  | nil : Lexes continued [] []
  | opened {t : Token} {cs rest : List Char} {ts : List Token} (heq : cs = t.text ++ rest)
      (hopens : Opens continued t rest) (hrest : Lexes continued rest ts) :
      Lexes continued cs (t :: ts)
  | code {c : Char} {cs : List Char} {ts : List Token}
      (hnone : ∀ t rest, c :: cs = t.text ++ rest → ¬ Opens continued t rest)
      (hrest : Lexes continued cs ts) : Lexes continued (c :: cs) (.code c :: ts)

theorem Token.text_ne_nil (t : Token) : t.text ≠ [] := by
  cases t <;> simp [text]

/-- Every text has tokens. -/
theorem exists_lexes (continued : Bool) (cs : List Char) : ∃ ts, Lexes continued cs ts := by
  induction hn : cs.length using Nat.strong_induction_on generalizing cs with
  | _ n ih =>
    subst hn
    -- What opens takes at least one character, so the rest is shorter.
    by_cases h : ∃ t rest, cs = t.text ++ rest ∧ Opens continued t rest
    · obtain ⟨t, rest, rfl, hopens⟩ := h
      have hshorter : rest.length < (t.text ++ rest).length := by
        simpa [List.length_pos_iff] using t.text_ne_nil
      obtain ⟨ts, hts⟩ := ih _ hshorter rest rfl
      exact ⟨t :: ts, .opened rfl hopens hts⟩
    · cases cs with
      | nil => exact ⟨[], .nil⟩
      | cons c cs =>
        obtain ⟨ts, hts⟩ := ih _ (Nat.lt_succ_self _) cs rfl
        exact ⟨.code c :: ts, .code (fun t rest heq hopens => h ⟨t, rest, heq, hopens⟩) hts⟩

/-- A literal ends at the first quote that is not escaped. -/
theorem Body.unique {body body' : List Char} (h : Body continued q body)
    (h' : Body continued q body') (hq : q ≠ '\\') (heq : body ++ q :: rest = body' ++ q :: rest') :
    body = body' ∧ rest = rest' := by
  induction h generalizing body' with
  | nil =>
    cases h' with
    | nil => simpa using heq
    | escaped => exact absurd (List.cons.inj heq).1 hq
    | plain _ hne => exact absurd (List.cons.inj heq).1.symm hne
  | escaped _ _ ih =>
    cases h' with
    | nil => exact absurd (List.cons.inj heq).1.symm hq
    | escaped _ h' =>
      simp only [List.cons_append, List.cons.injEq, true_and] at heq
      obtain ⟨rfl, hrest⟩ := ih h' heq.2
      exact ⟨by rw [heq.1], hrest⟩
    | plain hslash => exact absurd (List.cons.inj heq).1.symm hslash
  | plain hslash hne _ _ ih =>
    cases h' with
    | nil => exact absurd (List.cons.inj heq).1 hne
    | escaped => exact absurd (List.cons.inj heq).1 hslash
    | plain _ _ _ h' =>
      simp only [List.cons_append, List.cons.injEq] at heq
      obtain ⟨rfl, hrest⟩ := ih h' heq.2
      exact ⟨by rw [heq.1], hrest⟩

theorem exists_line (cs : List Char) :
    ∃ body rest, cs = body ++ rest ∧ '\n' ∉ body ∧ ∀ c ∈ rest.head?, c = '\n' := by
  induction cs with
  | nil => exact ⟨[], [], rfl, by simp, by simp⟩
  | cons c cs ih =>
    by_cases hc : c = '\n'
    · exact ⟨[], c :: cs, rfl, by simp, by simp [hc]⟩
    · obtain ⟨body, rest, rfl, hbody, hrest⟩ := ih
      exact ⟨c :: body, rest, rfl, by simp [Ne.symm hc, hbody], hrest⟩

/-- A line ends at its first line feed. -/
theorem line_unique {body' : List Char} (h : '\n' ∉ body) (h' : '\n' ∉ body')
    (hrest : ∀ c ∈ rest.head?, c = '\n') (hrest' : ∀ c ∈ rest'.head?, c = '\n')
    (heq : body ++ rest = body' ++ rest') : body = body' ∧ rest = rest' := by
  have hbody : ∀ {xs ys : List Char}, '\n' ∉ xs → (∀ c ∈ ys.head?, c = '\n') →
      (xs ++ ys).takeWhile (· != '\n') = xs := by
    intro xs ys hxs hys
    have hline : ∀ c ∈ xs, (c != '\n') = true := fun c hc => by
      simpa using ne_of_mem_of_not_mem hc hxs
    rw [List.takeWhile_append_of_pos hline]
    cases ys with
    | nil => simp
    | cons y ys => simp [hys y rfl]
  obtain rfl : body = body' := by rw [← hbody h hrest, heq, hbody h' hrest']
  exact ⟨rfl, List.append_cancel_left heq⟩

theorem eq_nil_of_closers (h : ¬ "*/".toList <:+: body ++ cs)
    (heq : "*/".toList ++ rest = cs ++ ("*/".toList ++ rest')) : cs = [] := by
  match cs with
  | [] => rfl
  | [c] => simp at heq
  | c :: d :: cs =>
    obtain ⟨rfl, rfl, -⟩ : '*' = c ∧ '/' = d ∧ rest = cs ++ ("*/".toList ++ rest') := by
      simpa using heq
    exact absurd ⟨body, cs, by simp⟩ h

/-- A block ends at its first closer. -/
theorem block_unique {body' : List Char} (h : ¬ "*/".toList <:+: body)
    (h' : ¬ "*/".toList <:+: body')
    (heq : body ++ ("*/".toList ++ rest) = body' ++ ("*/".toList ++ rest')) :
    body = body' ∧ rest = rest' := by
  have hbody : body = body' := by
    rcases List.append_eq_append_iff.1 heq with ⟨cs, rfl, hcs⟩ | ⟨cs, rfl, hcs⟩
    · rw [eq_nil_of_closers h' hcs, List.append_nil]
    · rw [eq_nil_of_closers h hcs, List.append_nil]
  subst hbody
  exact ⟨rfl, by simpa using heq⟩

theorem Opens.unique (h : Opens continued t rest) (h' : Opens continued t' rest')
    (heq : t.text ++ rest = t'.text ++ rest') : t = t' ∧ rest = rest' := by
  cases h with
  | literal hquote hbody =>
    cases h' with
    | literal hquote' hbody' =>
      obtain ⟨rfl, heq⟩ := List.cons.inj heq
      obtain ⟨rfl, rfl⟩ :=
        hbody.unique hbody' (ne_backslash_of_isQuote hquote) (by simpa using heq)
      exact ⟨rfl, rfl⟩
    | lineComment | blockComment => simp [Token.text, ne_slash_of_isQuote hquote] at heq
  | lineComment hbody hrest =>
    cases h' with
    | literal hquote' => simp [Token.text, (ne_slash_of_isQuote hquote').symm] at heq
    | lineComment hbody' hrest' =>
      obtain ⟨rfl, rfl⟩ := line_unique hbody hbody' hrest hrest' (by simpa [Token.text] using heq)
      exact ⟨rfl, rfl⟩
    | blockComment => simp [Token.text] at heq
  | blockComment hbody =>
    cases h' with
    | literal hquote' => simp [Token.text, (ne_slash_of_isQuote hquote').symm] at heq
    | lineComment => simp [Token.text] at heq
    | blockComment hbody' =>
      obtain ⟨rfl, rfl⟩ := block_unique hbody hbody' (by simpa [Token.text] using heq)
      exact ⟨rfl, rfl⟩

theorem Lexes.unique (h : Lexes continued cs ts) (h' : Lexes continued cs ts') : ts = ts' := by
  induction h generalizing ts' with
  | nil =>
    cases h' with
    | nil => rfl
    | opened heq => simp [Token.text_ne_nil] at heq
  | @opened t cs rest ts heq hopens _ ih =>
    cases h' with
    | nil => simp [Token.text_ne_nil] at heq
    | opened heq' hopens' hrest' =>
      obtain ⟨rfl, rfl⟩ := hopens.unique hopens' (heq.symm.trans heq')
      rw [ih hrest']
    | code hnone => exact absurd hopens (hnone t rest heq)
  | code hnone _ ih =>
    cases h' with
    | opened heq hopens => exact absurd hopens (hnone _ _ heq)
    | code _ hrest' => rw [ih hrest']

/-! ### What is blanked -/

theorem blankFrom_opened (h : Opens false t rest) :
    blankFrom .code (t.text ++ rest) = t.blanked ++ blankFrom .code rest := by
  cases h with
  | literal hquote hbody => simp [Token.text, Token.blanked, blankFrom_quoted hbody hquote]
  | @lineComment body rest hbody hrest =>
    -- The line feed behind a comment is no part of it, and the scan keeps it like any other one.
    have hend : blankFrom .line rest = blankFrom .code rest := by
      cases rest with
      | nil => rfl
      | cons c rest =>
        obtain rfl := hrest c rfl
        simp [blankFrom, Mode.next, Mode.blanks, isQuote, blankChar, backquote]
    have hblank := blankFrom_lineComment rest hbody
    rw [hend] at hblank
    exact hblank
  | @blockComment body rest hbody =>
    have hblank := blankFrom_blockComment rest hbody
    rw [← List.append_assoc body] at hblank
    exact hblank

/-- A character that opens nothing is left alone. -/
theorem blankFrom_code (hnone : ∀ t rest, c :: cs = t.text ++ rest → ¬ Opens false t rest) :
    blankFrom .code (c :: cs) = c :: blankFrom .code cs := by
  have hnext : Mode.code.next c cs = .code := by
    have hliteral : (isQuote c && closes c cs) = false := by
      by_contra hopen
      simp only [Bool.not_eq_false, Bool.and_eq_true] at hopen
      obtain ⟨body, rest, rfl, hbody⟩ := exists_body_of_closes hopen.2
      exact hnone (.literal c body) rest (by simp [Token.text]) (.literal hopen.1 hbody)
    simp only [Mode.next, hliteral, Bool.false_eq_true, if_false]
    split
    next hslash =>
      obtain rfl := beq_iff_eq.1 hslash
      split
      next cs =>
        obtain ⟨body, rest, rfl, hbody, hrest⟩ := exists_line cs
        exact absurd (.lineComment hbody hrest) (hnone (.lineComment body) rest (by simp [Token.text]))
      next cs =>
        split
        next hcloses =>
          obtain ⟨body, rest, rfl, hbody⟩ := exists_block_of_blockCloses hcloses
          exact absurd (.blockComment hbody) (hnone (.blockComment body) rest (by simp [Token.text]))
        next => rfl
      next => rfl
    next => rfl
  simp [blankFrom, hnext, Mode.blanks]

theorem blankFrom_of_lexes (h : Lexes false cs ts) :
    blankFrom .code cs = ts.flatMap Token.blanked := by
  induction h with
  | nil => rfl
  | opened heq hopens _ ih => rw [heq, blankFrom_opened hopens, ih, List.flatMap_cons]
  | code hnone _ ih =>
    rw [blankFrom_code hnone, ih]
    rfl

theorem Body.mono (h : Body false q body) : Body continued q body := by
  induction h with
  | nil => exact .nil
  | escaped hline _ ih => exact .escaped (.inr (hline.resolve_left Bool.false_ne_true)) ih
  | plain hslash hquote hline _ ih => exact .plain hslash hquote hline ih

theorem Opens.mono (h : Opens false t rest) : Opens continued t rest := by
  cases h with
  | literal hquote hbody => exact .literal hquote hbody.mono
  | lineComment hbody hrest => exact .lineComment hbody hrest
  | blockComment hbody => exact .blockComment hbody

theorem Opens.of_unbroken (h : Opens continued t rest) (ht : t.Unbroken) : Opens false t rest := by
  cases h with
  | literal hquote _ => exact .literal hquote ht
  | lineComment hbody hrest => exact .lineComment hbody hrest
  | blockComment hbody => exact .blockComment hbody

/-- Where no literal goes on behind an escaped line feed, it does not matter whether one may. -/
theorem Lexes.of_unbroken (h : Lexes continued cs ts) (hts : ∀ t ∈ ts, t.Unbroken) :
    Lexes false cs ts := by
  induction h with
  | nil => exact .nil
  | opened heq hopens _ ih =>
    obtain ⟨ht, hts⟩ := List.forall_mem_cons.1 hts
    exact .opened heq (hopens.of_unbroken ht) (ih hts)
  | code hnone _ ih =>
    exact .code (fun t rest heq hopens => hnone t rest heq hopens.mono)
      (ih (List.forall_mem_cons.1 hts).2)

/-- A text has one sequence of tokens, whether literals are continued or not. Without continued literals
its comments are what is blanked; with them too, unless a literal does go on behind a line feed. -/
theorem comments_are_blanked (text : String) :
    (∀ continued, ∃! ts, Lexes continued text.toList ts) ∧
    (∀ ts, Lexes false text.toList ts →
      (stripComments text).toList = ts.flatMap Token.blanked) ∧
    ∀ ts, Lexes true text.toList ts → (∀ t ∈ ts, t.Unbroken) →
      (stripComments text).toList = ts.flatMap Token.blanked := by
  have hblanked : ∀ ts, Lexes false text.toList ts →
      (stripComments text).toList = ts.flatMap Token.blanked := by
    intro ts hts
    rw [stripComments, String.toList_ofList, blankComments, blankFrom_of_lexes hts]
  refine ⟨fun continued => ?_, hblanked, fun ts hts hall => hblanked ts (hts.of_unbroken hall)⟩
  obtain ⟨ts, hts⟩ := exists_lexes continued text.toList
  exact ⟨ts, hts, fun ts' hts' => hts'.unique hts⟩

/-- A comment behind a literal that looks like one. -/
theorem comments_are_blanked_behind_literal :
    Lexes true "'//'/**/".toList [.literal '\'' "//".toList, .blockComment []] ∧
      (stripComments "'//'/**/").toList =
        [Token.literal '\'' "//".toList, .blockComment []].flatMap Token.blanked := by
  have hplain : Body false '\'' "//".toList :=
    .plain (by decide) (by decide) (by decide) (.plain (by decide) (by decide) (by decide) .nil)
  have hlexes : Lexes true "'//'/**/".toList [.literal '\'' "//".toList, .blockComment []] :=
    .opened rfl (.literal rfl hplain.mono) (.opened rfl (.blockComment (by decide)) .nil)
  refine ⟨hlexes, (comments_are_blanked _).2.2 _ hlexes ?_⟩
  simpa [Token.Unbroken] using hplain

/-- A literal that goes on behind an escaped line feed loses what looks like a comment in it. -/
theorem continued_literal_is_blanked :
    Lexes true "\"\\\n//\"".toList [.literal '"' "\\\n//".toList] ∧
      stripComments "\"\\\n//\"" = "\"\\\n   " ∧
      (stripComments "\"\\\n//\"").toList ≠
        [Token.literal '"' "\\\n//".toList].flatMap Token.blanked := by
  have hbody : Body true '"' "\\\n//".toList :=
    .escaped (.inl rfl) (.plain (by decide) (by decide) (by decide)
      (.plain (by decide) (by decide) (by decide) .nil))
  exact ⟨.opened rfl (.literal rfl hbody) .nil, by decide, by decide⟩

end Coselect.Imports
