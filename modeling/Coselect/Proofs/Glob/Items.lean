import Mathlib.Data.List.Infix
import Coselect.Glob.Matcher
import Coselect.Proofs.Text.Parts

/-! What a glob without brackets is compiled to. Its pieces come back one by one from their pattern
text, so the items are those of its segments: a run of stars that is a whole segment takes the slash
next to it along, and within any other segment every character has an item of its own. -/

namespace Coselect.Glob

open Text

variable {c : Char} {p : Piece} {i : Item} {ps : List Piece} {items : List Item}
  {cs rest seg : List Char} {segs : List (List Char)}

/-! ### Pieces and their text -/

/-- All characters but the slash. -/
def notSlash : CharSet := ⟨true, [.range 47 47]⟩

theorem has_notSlash (c : Char) : notSlash.has c = (c != '/') := by
  have hcode : c.toNat = 47 ↔ c = '/' := by
    rw [← Char.toNat_inj]
    rfl
  rw [Bool.eq_iff_iff, bne_iff_ne, ne_eq, ← hcode]
  simp only [notSlash, CharSet.has, List.any_cons, List.any_nil, Member.has, Bool.or_false]
  rw [bne_iff_ne, ne_eq, Bool.and_eq_true, decide_eq_true_iff, decide_eq_true_iff]
  omega

theorem parse_notSlash (total : Nat) (rest : List Char) :
    CharSet.parse total ('^' :: '/' :: ']' :: rest) = .ok (notSlash, rest) := by
  rfl

/-- The item that a piece other than a bracket class stands for. -/
inductive Piece.Reads : Piece → Item → Prop
  | char (c : Char) : Reads (.char c) (.char c)
  | directories : Reads .directories .directories
  | below : Reads .below .below
  | anything : Reads .anything .anything
  | run : Reads .run (.sets notSlash)
  | single : Reads .single (.set notSlash)

theorem text_char (c : Char) : (Piece.char c).text = if isSpecial c then ['\\', c] else [c] := rfl

/-- No piece's text starts with a star, so a set in front of it is not taken for a run. -/
theorem Piece.Reads.text_eq_cons (h : p.Reads i) : ∃ c cs, p.text = c :: cs ∧ c ≠ '*' := by
  cases h with
  | char c =>
    rw [text_char]
    split
    next => exact ⟨'\\', [c], rfl, by decide⟩
    next hc =>
      refine ⟨c, [], rfl, ?_⟩
      rintro rfl
      exact hc (by decide)
  | directories => exact ⟨'(', "?:.*/)?".toList, rfl, by decide⟩
  | below => exact ⟨'(', "?:/.*)?".toList, rfl, by decide⟩
  | anything => exact ⟨'.', ['*'], rfl, by decide⟩
  | run => exact ⟨'[', "^/]*".toList, rfl, by decide⟩
  | single => exact ⟨'[', "^/]".toList, rfl, by decide⟩

theorem afterStart_cons_of_ordinary {d : Char} {ds : List Char} (hd : isSpecial d = true)
    (hc : isSpecial c = false) : afterStart (d :: ds) (c :: rest) = none := by
  have hne : (d == c) = false := beq_eq_false_iff_ne.2 fun e => by simp [← e, hd] at hc
  simp [afterStart, hne]

/-- A character that is not special is read as itself. -/
theorem itemsFrom_ordinary (hc : isSpecial c = false) (total fuel : Nat) (rest : List Char) :
    itemsFrom total (fuel + 1) (c :: rest) = (itemsFrom total fuel rest).map (.char c :: ·) := by
  have hdirectories : afterStart "(?:.*/)?".toList (c :: rest) = none :=
    afterStart_cons_of_ordinary (by decide) hc
  have hbelow : afterStart "(?:/.*)?".toList (c :: rest) = none :=
    afterStart_cons_of_ordinary (by decide) hc
  have hanything : afterStart ".*".toList (c :: rest) = none :=
    afterStart_cons_of_ordinary (by decide) hc
  rw [itemsFrom, hdirectories, hbelow, hanything]
  · rintro rfl
    exact absurd hc (by decide)
  · rintro _ _ rfl
    exact absurd hc (by decide)

theorem itemsFrom_piece (h : p.Reads i) (total fuel : Nat) (hrest : rest.head? ≠ some '*') :
    itemsFrom total (fuel + 1) (p.text ++ rest) = (itemsFrom total fuel rest).map (i :: ·) := by
  cases h with
  | char c =>
    rw [text_char]
    split
    next => rfl
    next hc => exact itemsFrom_ordinary (Bool.eq_false_iff.2 hc) total fuel rest
  | single =>
    cases rest with
    | nil => rfl
    | cons c rest =>
      change itemsFrom total (fuel + 1) ('[' :: '^' :: '/' :: ']' :: c :: rest) = _
      have hc : c ≠ '*' := by simpa using hrest
      rw [itemsFrom, parse_notSlash]
      split
      next h => cases h
      next h =>
        injection h with h
        injection h with _ h
        exact absurd (List.cons.inj h).1 hc
      next h =>
        injection h with h
        injection h with h₁ h₂
        rw [h₁, h₂]
  | run => rfl
  | directories => rfl
  | below => rfl
  | anything => rfl

theorem head?_flatMap_text (h : List.Forall₂ Piece.Reads ps items) :
    (ps.flatMap Piece.text).head? ≠ some '*' := by
  cases h with
  | nil => simp
  | cons hp _ =>
    obtain ⟨c, cs, hcs, hc⟩ := hp.text_eq_cons
    simpa [hcs] using hc

/-- Pieces are read back from their text, one by one. -/
theorem itemsFrom_flatMap (h : List.Forall₂ Piece.Reads ps items) (total : Nat) {fuel : Nat}
    (hfuel : ps.length ≤ fuel) : itemsFrom total fuel (ps.flatMap Piece.text) = .ok items := by
  induction h generalizing fuel with
  | nil => cases fuel <;> rfl
  | cons hp hps ih =>
    cases fuel with
    | zero => simp at hfuel
    | succ fuel =>
      rw [List.flatMap_cons, itemsFrom_piece hp total fuel (head?_flatMap_text hps),
        ih (by simpa using hfuel)]
      rfl

theorem length_le_flatMap_text (h : List.Forall₂ Piece.Reads ps items) :
    ps.length ≤ (ps.flatMap Piece.text).length := by
  induction h with
  | nil => simp
  | cons hp _ ih =>
    obtain ⟨c, cs, hcs, -⟩ := hp.text_eq_cons
    simp only [List.length_cons, List.flatMap_cons, List.length_append, hcs]
    omega

theorem compileText_flatMap (h : List.Forall₂ Piece.Reads ps items) :
    compileText (ps.flatMap Piece.text) = .ok items :=
  itemsFrom_flatMap h _ (length_le_flatMap_text h)

/-! ### Segments -/

/-- A whole segment of two stars or more. -/
def isGlobstar (seg : List Char) : Bool := 2 ≤ seg.length && seg.all (· == '*')

/-- A segment in which no two stars stand next to each other, and no bracket stands. -/
structure Ordinary (seg : List Char) : Prop where
  apart : ¬ ['*', '*'] <:+: seg
  noBracket : '[' ∉ seg
  noSlash : '/' ∉ seg

instance : DecidablePred Ordinary := fun seg =>
  decidable_of_iff (¬ ['*', '*'] <:+: seg ∧ '[' ∉ seg ∧ '/' ∉ seg)
    ⟨fun ⟨h₁, h₂, h₃⟩ => ⟨h₁, h₂, h₃⟩, fun h => ⟨h.apart, h.noBracket, h.noSlash⟩⟩

def charItem (c : Char) : Item :=
  if c = '*' then .sets notSlash else if c = '?' then .set notSlash else .char c

/-- The slash in front of some segments with their items, which the last run of stars takes along. -/
def slashed (segs : List (List Char)) (items : List Item) : List Item :=
  match segs with
  | [] => []
  | [seg] => if isGlobstar seg then [.below] else .char '/' :: items
  | _ => .char '/' :: items

def itemsOf : List (List Char) → List Item
  | [] => []
  | seg :: segs =>
    if isGlobstar seg then if segs.isEmpty then [.anything] else .directories :: itemsOf segs
    else seg.map charItem ++ slashed segs (itemsOf segs)

theorem isGlobstar_iff : isGlobstar seg = true ↔ ∃ n, seg = List.replicate (n + 2) '*' := by
  rw [isGlobstar, Bool.and_eq_true, decide_eq_true_iff, List.all_eq_true]
  constructor
  · rintro ⟨hlen, hall⟩
    refine ⟨seg.length - 2, ?_⟩
    rw [Nat.sub_add_cancel hlen]
    exact List.eq_replicate_of_mem fun c hc => beq_iff_eq.1 (hall c hc)
  · rintro ⟨n, rfl⟩
    exact ⟨by simp, fun c hc => by simp [List.eq_of_mem_replicate hc]⟩

theorem Ordinary.not_isGlobstar (h : Ordinary seg) : isGlobstar seg = false := by
  rw [Bool.eq_false_iff]
  intro hstars
  obtain ⟨n, rfl⟩ := isGlobstar_iff.1 hstars
  exact h.apart ⟨[], List.replicate n '*', rfl⟩

theorem Ordinary.tail (h : Ordinary (c :: cs)) : Ordinary cs where
  apart := fun hin => h.apart (hin.trans (List.suffix_cons c cs).isInfix)
  noBracket := List.not_mem_of_not_mem_cons h.noBracket
  noSlash := List.not_mem_of_not_mem_cons h.noSlash

theorem Ordinary.head?_of_star (h : Ordinary ('*' :: cs)) : cs.head? ≠ some '*' := by
  intro hhead
  obtain ⟨cs, rfl⟩ := List.head?_eq_some_iff.1 hhead
  exact h.apart ⟨[], cs, rfl⟩

/-! ### Longer runs of stars -/

theorem collapseFrom_append_cons (hc : c ≠ '*') (n : Nat) (cs rest : List Char) :
    collapseFrom n (cs ++ c :: rest) = collapseFrom n cs ++ c :: collapseStars rest := by
  induction cs generalizing n with
  | nil => simp [collapseFrom, collapseStars, hc]
  | cons d cs ih =>
    rw [List.cons_append, collapseFrom, collapseFrom]
    split
    next => split <;> simp [ih]
    next => simp [ih]

theorem collapseStars_joinWith (segs : List (List Char)) :
    collapseStars (joinWith ['/'] segs) = joinWith ['/'] (segs.map collapseStars) := by
  induction segs with
  | nil => rfl
  | cons seg segs ih =>
    by_cases hsegs : segs = []
    · subst hsegs
      rfl
    · rw [joinWith_cons hsegs, List.map_cons, joinWith_cons (by simpa using hsegs), ← ih]
      exact collapseFrom_append_cons (by decide) 0 _ _

theorem collapseFrom_of_ordinary (h : Ordinary seg) {n : Nat} (hn : n = 0 ∨ seg.head? ≠ some '*') :
    collapseFrom n seg = seg := by
  induction seg generalizing n with
  | nil => rfl
  | cons c cs ih =>
    unfold collapseFrom
    split
    next hc =>
      obtain rfl := beq_iff_eq.1 hc
      obtain rfl := hn.resolve_right (by simp)
      simp [ih h.tail (.inr h.head?_of_star)]
    next => rw [ih h.tail (.inl rfl)]

theorem collapseStars_of_ordinary (h : Ordinary seg) : collapseStars seg = seg :=
  collapseFrom_of_ordinary h (.inl rfl)

theorem collapseFrom_two (k : Nat) : collapseFrom 2 (List.replicate k '*') = [] := by
  induction k with
  | zero => rfl
  | succ k ih => simpa [List.replicate_succ, collapseFrom] using ih

theorem collapseStars_of_isGlobstar (h : isGlobstar seg = true) : collapseStars seg = ['*', '*'] := by
  obtain ⟨n, rfl⟩ := isGlobstar_iff.1 h
  simpa [collapseStars, List.replicate_succ, collapseFrom] using collapseFrom_two n

/-! ### The items of the segments -/

/-- Every segment is a run of stars or has no two stars next to each other. -/
def Segmented (segs : List (List Char)) : Prop := ∀ seg ∈ segs, isGlobstar seg = true ∨ Ordinary seg

/-- The segments behind each other, longer runs of stars cut down. -/
def joined (segs : List (List Char)) : List Char := joinWith ['/'] (segs.map collapseStars)

theorem joined_cons (hne : segs ≠ []) : joined (seg :: segs) = collapseStars seg ++ '/' :: joined segs :=
  joinWith_cons (by simpa using hne)

theorem Segmented.joined_eq_iff (h : Segmented segs) (hne : segs ≠ []) : joined segs = ['*', '*'] ↔
    ∃ seg, segs = [seg] ∧ isGlobstar seg = true := by
  constructor
  · intro hjoined
    have hslash : ∀ part ∈ segs.map collapseStars, '/' ∉ part := by
      intro part hpart
      obtain ⟨seg, hseg, rfl⟩ := List.mem_map.1 hpart
      rcases h seg hseg with hstars | hseg
      · rw [collapseStars_of_isGlobstar hstars]
        decide
      · rw [collapseStars_of_ordinary hseg]
        exact hseg.noSlash
    have hparts := splitAt_joinWith (by simpa using hne) hslash
    rw [show joinWith ['/'] (segs.map collapseStars) = ['*', '*'] from hjoined] at hparts
    obtain ⟨seg, rfl, hseg⟩ := List.map_eq_singleton_iff.1 hparts.symm
    refine ⟨seg, rfl, (h seg (by simp)).resolve_right fun hord => ?_⟩
    rw [collapseStars_of_ordinary hord] at hseg
    exact hord.apart (hseg ▸ List.infix_refl _)
  · rintro ⟨seg, rfl, hseg⟩
    exact collapseStars_of_isGlobstar hseg

theorem piecesFrom_cons (hslash : c ≠ '/') (hbracket : c ≠ '[')
    (hstar : c = '*' → cs.head? ≠ some '*') :
    ∃ p : Piece, p.Reads (charItem c) ∧ piecesFrom 0 (c :: cs) = p :: piecesFrom 0 cs := by
  unfold charItem
  split
  next h =>
    subst h
    refine ⟨.run, .run, ?_⟩
    cases cs with
    | nil => rfl
    | cons d cs =>
      have hd : d ≠ '*' := by simpa using hstar rfl
      rw [piecesFrom] <;> simp [hd]
  next hstar =>
    split
    next h =>
      subst h
      exact ⟨.single, .single, rfl⟩
    next hsingle =>
      refine ⟨.char c, .char c, ?_⟩
      rw [piecesFrom] <;> simp [hstar, hsingle, hslash, hbracket]

theorem reads_append (h : Ordinary seg) (hrest : rest.head? ≠ some '*')
    (hreads : List.Forall₂ Piece.Reads (piecesFrom 0 rest) items) :
    List.Forall₂ Piece.Reads (piecesFrom 0 (seg ++ rest)) (seg.map charItem ++ items) := by
  induction seg with
  | nil => exact hreads
  | cons c cs ih =>
    have hstar : c = '*' → (cs ++ rest).head? ≠ some '*' := by
      rintro rfl
      cases cs with
      | nil => exact hrest
      | cons d cs => exact h.head?_of_star
    obtain ⟨p, hp, hpieces⟩ := piecesFrom_cons (List.ne_of_not_mem_cons h.noSlash).symm
      (List.ne_of_not_mem_cons h.noBracket).symm hstar
    rw [List.cons_append, hpieces]
    exact .cons hp (ih h.tail)

theorem reads_slashed (h : Segmented segs) (hne : segs ≠ [])
    (hreads : List.Forall₂ Piece.Reads (piecesFrom 0 (joined segs)) items) :
    List.Forall₂ Piece.Reads (piecesFrom 0 ('/' :: joined segs)) (slashed segs items) := by
  by_cases hstars : joined segs = ['*', '*']
  · obtain ⟨seg, rfl, hseg⟩ := (h.joined_eq_iff hne).1 hstars
    rw [hstars, slashed, if_pos hseg]
    exact .cons .below .nil
  · have hslashed : slashed segs items = .char '/' :: items := by
      unfold slashed
      split
      next => contradiction
      next seg => exact if_neg fun hseg => hstars ((h.joined_eq_iff hne).2 ⟨seg, rfl, hseg⟩)
      next => rfl
    have hpieces : piecesFrom 0 ('/' :: joined segs) = .char '/' :: piecesFrom 0 (joined segs) := by
      rw [piecesFrom] <;> simp [hstars]
    rw [hslashed, hpieces]
    exact .cons (.char '/') hreads

theorem Segmented.reads (h : Segmented segs) :
    List.Forall₂ Piece.Reads (piecesFrom 0 (joined segs)) (itemsOf segs) := by
  induction segs with
  | nil => exact .nil
  | cons seg segs ih =>
    obtain ⟨hseg, hsegs⟩ := List.forall_mem_cons.1 h
    specialize ih hsegs
    cases hstars : isGlobstar seg with
    | true =>
      rw [itemsOf, if_pos hstars]
      by_cases hnil : segs = []
      · subst hnil
        rw [joined, List.map_singleton, collapseStars_of_isGlobstar hstars]
        exact .cons .anything .nil
      · rw [joined_cons hnil, collapseStars_of_isGlobstar hstars]
        simpa [hnil] using .cons .directories ih
    | false =>
      have hord : Ordinary seg := hseg.resolve_left (by simp [hstars])
      rw [itemsOf, if_neg (by simp [hstars])]
      by_cases hnil : segs = []
      · subst hnil
        rw [joined, List.map_singleton, collapseStars_of_ordinary hord]
        have hreads : List.Forall₂ Piece.Reads (piecesFrom 0 []) [] := .nil
        simpa [joinWith, slashed] using reads_append hord (by simp) hreads
      · rw [joined_cons hnil, collapseStars_of_ordinary hord]
        exact reads_append hord (by simp) (reads_slashed hsegs hnil ih)

/-- A glob without brackets is compiled to the items of its segments. -/
theorem compile_eq {pattern : String} (h : Segmented (splitAt '/' pattern.toList)) :
    compile pattern = .ok (itemsOf (splitAt '/' pattern.toList)) := by
  have hjoined : joined (splitAt '/' pattern.toList) = collapseStars pattern.toList := by
    rw [joined, ← collapseStars_joinWith, joinWith_splitAt]
  have hreads := h.reads
  rw [hjoined] at hreads
  have htext : compileText (patternText pattern.toList) = _ := compileText_flatMap hreads
  rw [compile, htext]
  rfl

end Coselect.Glob
