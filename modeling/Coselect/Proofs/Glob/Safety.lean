import Coselect.Glob.Piece
import Coselect.Glob.Safety
import Coselect.Proofs.Glob.Items
import Coselect.Proofs.Text.Words

/-! Safe globs have few wildcard pieces. A glob can be cut into the parts that its pieces stand for, and
no run of stars goes on from one part into the next. So every run lies in one part, where the runs are
counted as in the whole glob, and a part with a wildcard piece has a run or a question mark to itself. -/

namespace Coselect.Glob

open Text

variable {p : Piece} {c : Char} {body cs front part pattern rest : List Char}
  {cut cut' : List (Piece × List Char)}

/-! ### Kinds of pieces -/

/-- The pieces with the texts `[^/]*`, `[^/]`, `.*`, `(?:.*/)?` and `(?:/.*)?` that stand for wildcards. -/
def Piece.isWildcard : Piece → Bool
  | directories | below | anything | run | single => true
  | char _ | bracket _ => false

/-- The wildcard pieces that may take a slash. -/
def Piece.crossesSlash : Piece → Bool
  | directories | below | anything => true
  | _ => false

/-- The wildcard pieces that may take a text of any length. -/
def Piece.isUnbounded : Piece → Bool
  | directories | below | anything | run => true
  | _ => false

/-- The texts of the wildcard pieces. -/
def wildcardTexts : List (List Char) :=
  ["[^/]*", "[^/]", ".*", "(?:.*/)?", "(?:/.*)?"].map String.toList

theorem of_mem_wildcardTexts : ∀ t ∈ wildcardTexts, t.length ≠ 1 ∧ t.head? ≠ some '\\' ∧
    (t.getLast? = some ']' → t = ['[', '^', '/', ']']) := by decide

/-- Only the class of all characters except the slash has the text of a wildcard piece and is none. -/
theorem Piece.isWildcard_iff :
    p.isWildcard = true ↔ p.text ∈ wildcardTexts ∧ p ≠ .bracket ['^', '/'] := by
  cases p with
  | char c =>
    refine iff_of_false nofun fun ⟨htext, _⟩ => ?_
    obtain ⟨hlength, hhead, -⟩ := of_mem_wildcardTexts _ htext
    rw [text_char] at hlength hhead
    split at hhead
    next => exact hhead rfl
    next hc => exact hlength (by rw [if_neg hc]; rfl)
  | bracket body =>
    refine iff_of_false nofun fun ⟨htext, hne⟩ => hne ?_
    have hlast : ('[' :: body ++ [']']).getLast? = some ']' := List.getLast?_concat
    have heq := (of_mem_wildcardTexts _ htext).2.2 hlast
    have hbody : body ++ [']'] = ['^', '/'] ++ [']'] := (List.cons.inj heq).2
    rw [List.append_cancel_right hbody]
  | _ => decide

/-- What a piece of a glob stands for. In a class longer runs of stars are cut down too. -/
inductive Piece.StandsFor : Piece → List Char → Prop
  | char {c : Char} : c ≠ '*' → StandsFor (.char c) [c]
  | directories (n : Nat) : StandsFor .directories (List.replicate (n + 2) '*' ++ ['/'])
  | below (n : Nat) : StandsFor .below ('/' :: List.replicate (n + 2) '*')
  | anything (n : Nat) : StandsFor .anything (List.replicate (n + 2) '*')
  | run : StandsFor .run ['*']
  | single : StandsFor .single ['?']
  | bracket {body : List Char} : ']' ∉ body →
      StandsFor (.bracket (bracketBody (collapseStars body))) ('[' :: body ++ [']'])

/-! ### Runs of stars -/

theorem starRunsFrom_append (h : rest.head? ≠ some '*') (n : Nat) (cs : List Char) :
    starRunsFrom n (cs ++ rest) = starRunsFrom n cs ++ starRuns rest := by
  induction cs generalizing n with
  | nil =>
    cases rest with
    | nil => simp [starRuns, starRunsFrom]
    | cons c rest =>
      have hc : c ≠ '*' := by simpa using h
      by_cases hn : n = 0 <;> simp [starRuns, starRunsFrom, hc, hn]
  | cons c cs ih =>
    rw [List.cons_append, starRunsFrom, starRunsFrom, ih, ih]
    split <;> [rfl; split] <;> simp

@[simp] theorem starRuns_cons (hc : c ≠ '*') : starRuns (c :: cs) = starRuns cs := by
  simp [starRuns, starRunsFrom, hc]

/-- No run of stars goes on from one text into the other. -/
def Apart (front rest : List Char) : Prop := front.getLast? = some '*' → rest.head? ≠ some '*'

theorem starRuns_append (h : Apart front rest) :
    starRuns (front ++ rest) = starRuns front ++ starRuns rest := by
  rcases List.eq_nil_or_concat' front with rfl | ⟨front, c, rfl⟩
  · rfl
  · by_cases hc : c = '*'
    · exact starRunsFrom_append (h (by simp [hc])) 0 _
    · have happend : ∀ rest, starRuns (front ++ c :: rest) = starRuns front ++ starRuns rest := by
        intro rest
        have hrest : (c :: rest).head? ≠ some '*' := by simpa using hc
        have hcons : starRuns (c :: rest) = starRuns rest := starRuns_cons hc
        rw [← hcons]
        exact starRunsFrom_append hrest 0 front
      rw [List.append_assoc, List.singleton_append, happend, happend [], List.append_assoc]
      rfl

theorem starRunsFrom_stars (k n : Nat) : starRunsFrom k (List.replicate (n + 1) '*') = [k + n + 1] := by
  induction n generalizing k with
  | zero => simp [starRunsFrom]
  | succ n ih =>
    rw [List.replicate_succ, starRunsFrom, beq_self_eq_true, if_pos rfl, ih, Nat.add_right_comm k 1]
    rfl

theorem starRuns_stars (n : Nat) : starRuns (List.replicate (n + 1) '*') = [n + 1] := by
  rw [starRuns, starRunsFrom_stars, Nat.zero_add]

/-- The part of an unbounded piece has one run of stars, of two stars or more if the piece may take a
slash. -/
theorem Piece.StandsFor.starRuns_eq (h : p.StandsFor part) (hp : p.isUnbounded = true) :
    ∃ n, starRuns part = [n + 1] ∧ (p.crossesSlash = true → 0 < n) := by
  cases h with
  | directories n =>
    have hrest : ['/'].head? ≠ some '*' := by decide
    refine ⟨n + 1, ?_, fun _ => Nat.succ_pos n⟩
    rw [starRuns_append fun _ => hrest, starRuns_stars]
    rfl
  | below n => exact ⟨n + 1, (starRuns_cons (by decide)).trans (starRuns_stars _), fun _ => Nat.succ_pos n⟩
  | anything n => exact ⟨n + 1, starRuns_stars _, fun _ => Nat.succ_pos n⟩
  | run => exact ⟨0, rfl, nofun⟩
  | char | single | bracket => cases hp

/-! ### Longer runs cut down -/

theorem collapseStars_cons (hc : c ≠ '*') : collapseStars (c :: cs) = c :: collapseStars cs :=
  collapseFrom_append_cons hc 0 [] cs

theorem collapseFrom_sublist (n : Nat) (cs : List Char) : (collapseFrom n cs).Sublist cs := by
  induction cs generalizing n with
  | nil => exact .slnil
  | cons c cs ih =>
    unfold collapseFrom
    split
    next hc =>
      rw [beq_iff_eq.1 hc]
      split
      next => exact (ih n).cons '*'
      next => exact (ih (n + 1)).cons_cons '*'
    next => exact (ih 0).cons_cons c

theorem notMem_collapseStars (h : c ∉ cs) : c ∉ collapseStars cs :=
  fun hmem => h ((collapseFrom_sublist 0 cs).subset hmem)

theorem head?_collapseStars (cs : List Char) : (collapseStars cs).head? = cs.head? := by
  cases cs with
  | nil => rfl
  | cons c cs => by_cases hc : c = '*' <;> simp [collapseStars, collapseFrom, hc]

theorem collapseStars_stars (h : rest.head? ≠ some '*') (n : Nat) :
    collapseStars (List.replicate (n + 2) '*' ++ rest) = '*' :: '*' :: collapseStars rest := by
  have hstars : collapseStars (List.replicate (n + 2) '*') = ['*', '*'] :=
    collapseStars_of_isGlobstar (isGlobstar_iff.2 ⟨n, rfl⟩)
  cases rest with
  | nil => rw [List.append_nil, hstars]; rfl
  | cons c rest =>
    have hc : c ≠ '*' := by simpa using h
    rw [collapseStars, collapseFrom_append_cons hc, collapseStars_cons hc]
    exact congrArg (· ++ _) hstars

/-- Every text is a run of stars and a rest that starts otherwise. -/
theorem exists_stars (cs : List Char) :
    ∃ n rest, cs = List.replicate n '*' ++ rest ∧ rest.head? ≠ some '*' := by
  obtain ⟨run, rest, rfl, hrun, hrest⟩ := exists_run (· == '*') cs
  refine ⟨run.length, rest, ?_, ?_⟩
  · rw [List.eq_replicate_of_mem fun c hc => beq_iff_eq.1 (hrun c hc), List.length_replicate]
  · intro hhead
    obtain ⟨rest, rfl⟩ := List.head?_eq_some_iff.1 hhead
    simp at hrest

theorem eq_stars_of_collapseStars_eq (h : collapseStars cs = ['*', '*']) :
    ∃ n, cs = List.replicate (n + 2) '*' := by
  obtain ⟨n, rest, rfl, hrest⟩ := exists_stars cs
  cases rest with
  | nil =>
    match n with
    | 0 | 1 => cases h
    | n + 2 => exact ⟨n, List.append_nil _⟩
  | cons c rest =>
    have hc : c ≠ '*' := by simpa using hrest
    have hmem : c ∈ collapseStars (List.replicate n '*' ++ c :: rest) := by
      rw [collapseStars, collapseFrom_append_cons hc]
      simp
    rw [h] at hmem
    exact absurd (by simpa using hmem) hc

theorem eq_of_collapseStars_eq (h : collapseStars cs = front) (hstar : '*' ∉ front) : cs = front := by
  induction cs generalizing front with
  | nil => exact h
  | cons c cs ih =>
    have hc : c ≠ '*' := by
      rintro rfl
      exact hstar (h ▸ List.mem_cons_self)
    rw [collapseStars_cons hc] at h
    subst h
    exact congrArg (c :: ·) (ih rfl fun hmem => hstar (List.mem_cons_of_mem c hmem))

/-! ### Classes without the slash -/

/-- The ways to write the class of all characters except the slash. -/
def slashlessClasses : List (List Char) := ["[^/]", "[!/]"].map String.toList

theorem bracketBody_eq_cons (h : bracketBody body = '^' :: cs) : body = '^' :: cs ∨ body = '!' :: cs := by
  unfold bracketBody at h
  split at h
  next rest => exact .inr (by rw [(List.cons.inj h).2])
  next => exact .inl h

theorem mem_slashlessClasses_of_standsFor
    (h : (Piece.bracket ['^', '/']).StandsFor part) : part ∈ slashlessClasses := by
  generalize hp : Piece.bracket ['^', '/'] = p at h
  cases h with
  | bracket =>
    rcases bracketBody_eq_cons (Piece.bracket.inj hp).symm with hbody | hbody
    · rw [eq_of_collapseStars_eq hbody (by decide)]
      decide
    · rw [eq_of_collapseStars_eq hbody (by decide)]
      decide
  | _ => cases hp

theorem Piece.StandsFor.notMem_slashlessClasses (h : p.StandsFor part) (hp : p.isWildcard = true) :
    part ∉ slashlessClasses := by
  have hopen : ∀ part ∈ slashlessClasses, part.head? = some '[' := by decide
  intro hmem
  have hhead := hopen part hmem
  cases h with
  | char | bracket => cases hp
  | directories | below | anything | run | single => simp [List.replicate_succ] at hhead

/-- In a glob a wildcard piece is told by its text, unless that stands for a class without the slash. -/
theorem Piece.StandsFor.isWildcard_iff (h : p.StandsFor part) :
    p.isWildcard = true ↔ p.text ∈ wildcardTexts ∧ part ∉ slashlessClasses := by
  constructor
  · exact fun hp => ⟨(Piece.isWildcard_iff.1 hp).1, h.notMem_slashlessClasses hp⟩
  · rintro ⟨htext, hpart⟩
    refine Piece.isWildcard_iff.2 ⟨htext, ?_⟩
    rintro rfl
    exact hpart (mem_slashlessClasses_of_standsFor h)

/-! ### Pieces one by one -/

theorem piecesFrom_skip (front rest : List Char) :
    piecesFrom front.length (front ++ rest) = piecesFrom 0 rest := by
  induction front with
  | nil => rfl
  | cons c front ih => exact ih

theorem piecesFrom_run (h : cs.head? ≠ some '*') :
    piecesFrom 0 ('*' :: cs) = .run :: piecesFrom 0 cs := by
  cases cs with
  | nil => rfl
  | cons c cs =>
    have hc : c ≠ '*' := by simpa using h
    rw [piecesFrom] <;> simp [hc]

theorem piecesFrom_anything (h : cs.head? ≠ some '/') :
    piecesFrom 0 ('*' :: '*' :: cs) = .anything :: piecesFrom 0 cs := by
  cases cs with
  | nil => rfl
  | cons c cs =>
    have hc : c ≠ '/' := by simpa using h
    rw [piecesFrom] <;> simp [hc, piecesFrom]

theorem piecesFrom_slash (h : cs ≠ ['*', '*']) :
    piecesFrom 0 ('/' :: cs) = .char '/' :: piecesFrom 0 cs := by
  rw [piecesFrom] <;> simp [h]

theorem piecesFrom_bracket (h : ']' ∉ body) (cs : List Char) :
    piecesFrom 0 ('[' :: (body ++ ']' :: cs)) = .bracket (bracketBody body) :: piecesFrom 0 cs := by
  have hbody : (body ++ ']' :: cs).takeWhile (· != ']') = body :=
    takeWhile_run (fun c hc => bne_iff_ne.2 (ne_of_mem_of_not_mem hc h)) (by simp)
  have hskip := piecesFrom_skip (body ++ [']']) cs
  simp only [List.length_append, List.length_singleton, List.append_assoc, List.singleton_append] at hskip
  rw [piecesFrom, if_pos (by simp), hbody]
  exact congrArg (_ :: ·) hskip

theorem piecesFrom_open (h : ']' ∉ cs) : piecesFrom 0 ('[' :: cs) = .char '[' :: piecesFrom 0 cs := by
  rw [piecesFrom, if_neg (by simpa using h)]

theorem piecesFrom_char (hstar : c ≠ '*') (hslash : c ≠ '/') (hsingle : c ≠ '?') (hopen : c ≠ '[') :
    piecesFrom 0 (c :: cs) = .char c :: piecesFrom 0 cs := by
  rw [piecesFrom] <;> simp [hstar, hslash, hsingle, hopen]

/-! ### Cutting a glob into parts -/

/-- The first piece of a glob, with the part it stands for. -/
structure Begins (pattern : List Char) (p : Piece) (part rest : List Char) : Prop where
  eq_append : pattern = part ++ rest
  standsFor : p.StandsFor part
  apart : Apart part rest
  pieces_eq : pieces pattern = p :: pieces rest

theorem apart_of_head (h : rest.head? ≠ some '*') : Apart front rest := fun _ => h

theorem apart_of_last (h : front.getLast? ≠ some '*') : Apart front rest := fun hfront => absurd hfront h

theorem exists_begins_star (h : rest.head? ≠ some '*') :
    ∃ part rest', Begins ('*' :: rest) .run part rest' := by
  have hcollapse : collapseStars ('*' :: rest) = '*' :: collapseStars rest := by
    cases rest with
    | nil => rfl
    | cons c rest =>
      have hc : c ≠ '*' := by simpa using h
      simp [collapseStars, collapseFrom, hc]
  refine ⟨['*'], rest, rfl, .run, apart_of_head h, ?_⟩
  rw [pieces, hcollapse, piecesFrom_run (by rwa [head?_collapseStars])]
  rfl

theorem exists_begins_stars (h : rest.head? ≠ some '*') (n : Nat) :
    ∃ p part rest', Begins (List.replicate (n + 2) '*' ++ rest) p part rest' := by
  by_cases hslash : rest.head? = some '/'
  · obtain ⟨rest, rfl⟩ := List.head?_eq_some_iff.1 hslash
    refine ⟨.directories, _, rest, by simp, .directories n, apart_of_last (by simp), ?_⟩
    rw [pieces, collapseStars_stars h, collapseStars_cons (by decide)]
    rfl
  · refine ⟨.anything, _, rest, rfl, .anything n, apart_of_head h, ?_⟩
    rw [pieces, collapseStars_stars h, piecesFrom_anything (by rwa [head?_collapseStars])]
    rfl

theorem exists_begins_slash (rest : List Char) : ∃ p part rest', Begins ('/' :: rest) p part rest' := by
  by_cases hstars : collapseStars rest = ['*', '*']
  · obtain ⟨n, rfl⟩ := eq_stars_of_collapseStars_eq hstars
    refine ⟨.below, _, [], (List.append_nil _).symm, .below n, apart_of_head (by simp), ?_⟩
    rw [pieces, collapseStars_cons (by decide), hstars]
    rfl
  · refine ⟨.char '/', ['/'], rest, rfl, .char (by decide), apart_of_last (by simp), ?_⟩
    rw [pieces, collapseStars_cons (by decide), piecesFrom_slash hstars]
    rfl

theorem exists_begins_open (rest : List Char) : ∃ p part rest', Begins ('[' :: rest) p part rest' := by
  by_cases hclose : ']' ∈ rest
  · obtain ⟨body, rest, rfl, hbody⟩ := List.eq_append_cons_of_mem hclose
    have hlast : ('[' :: body ++ [']']).getLast? ≠ some '*' := by
      rw [List.getLast?_concat]
      decide
    refine ⟨_, '[' :: body ++ [']'], rest, by simp, .bracket hbody, apart_of_last hlast, ?_⟩
    rw [pieces, collapseStars_cons (by decide), collapseStars, collapseFrom_append_cons (by decide)]
    exact piecesFrom_bracket (notMem_collapseStars hbody) _
  · refine ⟨.char '[', ['['], rest, rfl, .char (by decide), apart_of_last (by simp), ?_⟩
    rw [pieces, collapseStars_cons (by decide)]
    exact piecesFrom_open (notMem_collapseStars hclose)

theorem exists_begins_cons (hstar : c ≠ '*') (rest : List Char) :
    ∃ p part rest', Begins (c :: rest) p part rest' := by
  by_cases hslash : c = '/'
  · exact hslash ▸ exists_begins_slash rest
  by_cases hopen : c = '['
  · exact hopen ▸ exists_begins_open rest
  have hlast : [c].getLast? ≠ some '*' := by simpa using hstar
  by_cases hsingle : c = '?'
  · subst hsingle
    refine ⟨.single, ['?'], rest, rfl, .single, apart_of_last hlast, ?_⟩
    rw [pieces, collapseStars_cons hstar]
    rfl
  · refine ⟨.char c, [c], rest, rfl, .char hstar, apart_of_last hlast, ?_⟩
    rw [pieces, collapseStars_cons hstar]
    exact piecesFrom_char hstar hslash hsingle hopen

/-- Every glob begins with a piece. -/
theorem exists_begins (h : pattern ≠ []) : ∃ p part rest, Begins pattern p part rest := by
  obtain ⟨n, rest, rfl, hrest⟩ := exists_stars pattern
  match n, rest with
  | n + 2, rest => exact exists_begins_stars hrest n
  | 1, rest => exact ⟨_, exists_begins_star hrest⟩
  | 0, [] => exact absurd rfl h
  | 0, c :: rest => exact exists_begins_cons (by simpa using hrest) rest

/-- The pieces of a glob with the parts they stand for, where no part ends within a run of stars. -/
inductive Cut : List (Piece × List Char) → List Char → Prop
  | nil : Cut [] []
  | cons {p : Piece} {part rest : List Char} {cut : List (Piece × List Char)} :
      p.StandsFor part → Apart part rest → Cut cut rest → Cut ((p, part) :: cut) (part ++ rest)

theorem Piece.StandsFor.ne_nil (h : p.StandsFor part) : part ≠ [] := by
  cases h <;> simp

/-- Every glob can be cut into parts, one for each of its pieces. -/
theorem exists_cut (pattern : List Char) : ∃ cut, Cut cut pattern ∧ cut.map (·.1) = pieces pattern := by
  induction hlength : pattern.length using Nat.strong_induction_on generalizing pattern with
  | _ length ih =>
    by_cases hne : pattern = []
    · exact hne ▸ ⟨[], .nil, rfl⟩
    obtain ⟨p, part, rest, rfl, hp, hapart, hpieces⟩ := exists_begins hne
    have hshorter : rest.length < length := by
      rw [← hlength, List.length_append]
      exact Nat.lt_add_of_pos_left (List.length_pos_iff.2 hp.ne_nil)
    obtain ⟨cut, hcut, hmap⟩ := ih _ hshorter rest rfl
    exact ⟨(p, part) :: cut, hcut.cons hp hapart, by rw [List.map_cons, hmap, hpieces]⟩

/-! ### Counting -/

theorem Cut.eq_flatMap (h : Cut cut pattern) : pattern = cut.flatMap (·.2) := by
  induction h with
  | nil => rfl
  | cons _ _ _ ih => rw [List.flatMap_cons, ← ih]

theorem Cut.standsFor (h : Cut cut pattern) : ∀ e ∈ cut, e.1.StandsFor e.2 := by
  induction h with
  | nil => simp
  | cons hp _ _ ih => exact List.forall_mem_cons.2 ⟨hp, ih⟩

theorem Cut.starRuns_eq (h : Cut cut pattern) : starRuns pattern = cut.flatMap (starRuns ·.2) := by
  induction h with
  | nil => rfl
  | cons _ hapart _ ih => rw [starRuns_append hapart, ih, List.flatMap_cons]

/-- The first parts are a cut of what they cover. -/
theorem Cut.of_append (h : Cut (cut ++ cut') pattern) : Cut cut (cut.flatMap (·.2)) := by
  induction cut generalizing pattern with
  | nil => exact .nil
  | cons e cut ih =>
    cases h with
    | cons hp hapart hcut =>
      refine .cons hp (fun hlast => ?_) (ih hcut)
      have hhead := hapart hlast
      cases cut with
      | nil => simp
      | cons e' cut =>
        have hne : e'.2 ≠ [] := (hcut.standsFor e' List.mem_cons_self).ne_nil
        rw [hcut.eq_flatMap] at hhead
        simpa [List.head?_append_of_ne_nil _ hne] using hhead

theorem wildcards_append (h : Apart front rest) :
    wildcards (front ++ rest) = wildcards front + wildcards rest := by
  simp only [wildcards, starRuns_append h, List.length_append, List.count_append]
  omega

theorem globstars_append (h : Apart front rest) :
    globstars (front ++ rest) = globstars front + globstars rest := by
  rw [globstars, starRuns_append h, List.countP_append]
  rfl

theorem Piece.StandsFor.wildcards_pos (h : p.StandsFor part) (hp : p.isWildcard = true) :
    0 < wildcards part := by
  by_cases hrun : p.isUnbounded = true
  · obtain ⟨n, hn, -⟩ := h.starRuns_eq hrun
    simp only [wildcards, hn, List.length_singleton]
    omega
  · cases h with
    | single => decide
    | char | bracket => cases hp
    | directories | below | anything | run => exact absurd rfl hrun

theorem Piece.StandsFor.globstars_pos (h : p.StandsFor part) (hp : p.crossesSlash = true) :
    0 < globstars part := by
  have hrun : p.isUnbounded = true := by cases p <;> first | rfl | cases hp
  obtain ⟨n, hn, hpos⟩ := h.starRuns_eq hrun
  have hlong : 2 ≤ n + 1 := Nat.succ_le_succ (hpos hp)
  simp [globstars, hn, hlong]

theorem Cut.countP_isWildcard_le (h : Cut cut pattern) :
    cut.countP (·.1.isWildcard) ≤ wildcards pattern := by
  induction h with
  | nil => simp
  | cons hp hapart _ ih =>
    rw [List.countP_cons, wildcards_append hapart]
    split
    next hwild =>
      have := hp.wildcards_pos hwild
      omega
    next => omega

theorem Cut.countP_crossesSlash_le (h : Cut cut pattern) :
    cut.countP (·.1.crossesSlash) ≤ globstars pattern := by
  induction h with
  | nil => simp
  | cons hp hapart _ ih =>
    rw [List.countP_cons, globstars_append hapart]
    split
    next hcross =>
      have := hp.globstars_pos hcross
      omega
    next => omega

/-- How many runs of stars begin in the parts. The run of a part is the last one up to the end of it. -/
def runsIn (cut : List (Piece × List Char)) : Nat := (starRuns (cut.flatMap (·.2))).length

theorem Cut.runsIn_lt {between after : List (Piece × List Char)} {e f : Piece × List Char}
    (h : Cut (cut ++ e :: (between ++ f :: after)) pattern) (hf : f.1.isUnbounded = true) :
    runsIn (cut ++ [e]) < runsIn (cut ++ e :: (between ++ [f])) := by
  have hsplit : Cut ((cut ++ e :: (between ++ [f])) ++ after) pattern := by simpa using h
  have hlater := hsplit.of_append
  have hsplit : Cut ((cut ++ [e]) ++ (between ++ f :: after)) pattern := by simpa using h
  have hearlier := hsplit.of_append
  obtain ⟨n, hn, -⟩ := (hlater.standsFor f (by simp)).starRuns_eq hf
  rw [runsIn, runsIn, hearlier.starRuns_eq, hlater.starRuns_eq]
  simp only [List.flatMap_append, List.flatMap_cons, List.flatMap_nil, List.length_append, hn]
  simp

theorem excess?_eq_none_iff : excess? pattern = none ↔
    pattern.length ≤ maxLength ∧ globstars pattern ≤ maxGlobstars ∧ wildcards pattern ≤ maxWildcards := by
  unfold excess?
  split <;> [skip; split <;> [skip; split]] <;> simp <;> omega

/-- The text of a safe glob is made of pieces of which at most sixteen are wildcards and four may take a
slash. The wildcards are the pieces with one of five texts, those left out that stand for a class without
the slash. No two unbounded ones come from the same run of stars: counted up to the end of its part, the runs
are more for the later of them. -/
theorem safe_glob_has_few_wildcards (h : excess? pattern = none) :
    ∃ cut, Cut cut pattern ∧ cut.map (·.1) = pieces pattern ∧
      patternText pattern = cut.flatMap (·.1.text) ∧
      (∀ e ∈ cut, e.1.isWildcard = true ↔ e.1.text ∈ wildcardTexts ∧ e.2 ∉ slashlessClasses) ∧
      cut.countP (·.1.isWildcard) ≤ 16 ∧ cut.countP (·.1.crossesSlash) ≤ 4 ∧
      ∀ before e between f after, cut = before ++ e :: (between ++ f :: after) →
        e.1.isUnbounded = true → f.1.isUnbounded = true →
        runsIn (before ++ [e]) < runsIn (before ++ e :: (between ++ [f])) := by
  obtain ⟨-, hglobstars, hwildcards⟩ := excess?_eq_none_iff.1 h
  obtain ⟨cut, hcut, hmap⟩ := exists_cut pattern
  refine ⟨cut, hcut, hmap, ?_, fun e he => (hcut.standsFor e he).isWildcard_iff,
    hcut.countP_isWildcard_le.trans hwildcards, hcut.countP_crossesSlash_le.trans hglobstars, ?_⟩
  · rw [patternText, ← hmap, List.flatMap_map]
  · rintro before e between f after rfl - hf
    exact hcut.runsIn_lt hf

/-- Stars in a class, runs longer than two, and a slash that two runs share. -/
theorem safe_glob_has_few_wildcards_mixed :
    excess? "**/a*?[*?]***b/****/**".toList = none ∧
      ∃ cut, Cut cut "**/a*?[*?]***b/****/**".toList ∧
        cut.map (·.1) = [.directories, .char 'a', .run, .single, .bracket ['*', '?'], .anything,
          .char 'b', .char '/', .directories, .anything] ∧
        cut.countP (·.1.isWildcard) ≤ 16 ∧ cut.countP (·.1.crossesSlash) ≤ 4 := by
  have hsafe : excess? "**/a*?[*?]***b/****/**".toList = none := by decide
  obtain ⟨cut, hcut, hmap, -, -, hwild, hcross, -⟩ := safe_glob_has_few_wildcards hsafe
  exact ⟨hsafe, cut, hcut, hmap.trans (by decide), hwild, hcross⟩

/-- Seventeen classes without the slash, each with the text of a question mark's piece, make a safe glob. -/
theorem slashless_classes_are_safe :
    excess? (List.replicate 17 "[!/]".toList).flatten = none ∧
      patternText (List.replicate 17 "[!/]".toList).flatten = (List.replicate 17 "[^/]".toList).flatten ∧
      (pieces (List.replicate 17 "[!/]".toList).flatten).countP (·.text ∈ wildcardTexts) = 17 := by
  decide

end Coselect.Glob
