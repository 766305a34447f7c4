import Coselect.Proofs.Json.Reading

/-! What plain JSON accepts. A text that is read without a fault is the text of a tree with blanks
around it, and comes to what the tree means. So the trees miss no JSON. -/

namespace Coselect.Json

open Text

variable {α β : Type} {cs rest : List Char} {left fuel : Nat}

theorem bind_eq_ok {x : Except ReadError α} {f : α → Except ReadError β} {b : β} :
    x.bind f = .ok b ↔ ∃ a, x = .ok a ∧ f a = .ok b := by
  cases x <;> simp [Except.bind]

theorem map_eq_ok {x : Except ReadError α} {f : α → β} {b : β} :
    x.map f = .ok b ↔ ∃ a, x = .ok a ∧ f a = b := by
  cases x <;> simp [Except.map]

/-! ### Blanks -/

theorem exists_gap (h : ∀ c ∈ cs, isSpace c = true) : ∃ g : Gap, Layout.written.gap g = cs := by
  induction cs with
  | nil => exact ⟨[], rfl⟩
  | cons c cs ih =>
    obtain ⟨hc, hcs⟩ := List.forall_mem_cons.1 h
    obtain ⟨g, rfl⟩ := ih hcs
    exact ⟨.space c hc :: g, rfl⟩

theorem exists_gap_skipSpace (cs : List Char) :
    ∃ g : Gap, cs = Layout.written.gap g ++ skipSpace cs := by
  have hrun : ∀ c ∈ cs.takeWhile isSpace, isSpace c = true := fun c hc => List.mem_takeWhile_imp hc
  obtain ⟨g, hg⟩ := exists_gap hrun
  exact ⟨g, by rw [hg]; exact List.takeWhile_append_dropWhile.symm⟩

theorem leaves_skipSpace (cs : List Char) : Leaves isSpace (skipSpace cs) :=
  leaves_dropWhile isSpace cs

/-! ### Strings -/

theorem hex4_eq_some {n : Nat} (h : hex4 cs = some n) :
    ∃ ds rest, cs = ds ++ rest ∧ ds.length = 4 ∧ hex4 ds = some n := by
  have hlength : (cs.take 4).length = 4 := by
    unfold hex4 at h
    dsimp only at h
    split at h
    next hds => exact hds.1
    next => cases h
  refine ⟨cs.take 4, cs.drop 4, (List.take_append_drop 4 cs).symm, hlength, ?_⟩
  rw [← h]
  simp [hex4, List.take_take]

/-- An escape of a number is one code or two. -/
theorem unicodeEscape_eq_some {c : Char} {n : Nat} (h : unicodeEscape cs = some (c, n)) :
    ∃ q : Quoted, '\\' :: 'u' :: cs = q.inner ++ cs.drop n := by
  unfold unicodeEscape at h
  split at h
  next => cases h
  next k hk =>
    obtain ⟨ds, rest, rfl, hlength, hds⟩ := hex4_eq_some hk
    have hdrop (i : Nat) : (ds ++ rest).drop (4 + i) = rest.drop i := by
      rw [← List.drop_drop, ← hlength, List.drop_left]
    have hone : '\\' :: 'u' :: (ds ++ rest) =
        Quoted.inner [.code ds k ⟨hlength, hds⟩] ++ (ds ++ rest).drop 4 := by
      rw [hdrop 0]
      simp [Quoted.inner, Atom.text]
    split at h
    next r hhigh hr =>
      split at h
      next m hm =>
        split at h
        next hlow =>
          obtain rfl : 10 = n := congrArg Prod.snd (Option.some.inj h)
          rw [hdrop 0, List.drop_zero] at hr
          obtain ⟨es, rest', rfl, hlength', hes⟩ := hex4_eq_some hm
          refine ⟨[.code ds k ⟨hlength, hds⟩, .code es m ⟨hlength', hes⟩], ?_⟩
          rw [hdrop 6, hr]
          simp [Quoted.inner, Atom.text, hlength']
        next =>
          obtain rfl : 4 = n := congrArg Prod.snd (Option.some.inj h)
          exact ⟨_, hone⟩
      next =>
          obtain rfl : 4 = n := congrArg Prod.snd (Option.some.inj h)
          exact ⟨_, hone⟩
    next =>
          obtain rfl : 4 = n := congrArg Prod.snd (Option.some.inj h)
          exact ⟨_, hone⟩

theorem Quoted.inner_append (p q : Quoted) : inner (p ++ q) = inner p ++ inner q :=
  List.flatMap_append

theorem exists_inner {k : Nat} {r : Front (List Char)} (h : stringFrom left k cs = .ok r) :
    ∃ (q : Quoted) (rest : List Char), cs.drop k = q.inner ++ '"' :: rest := by
  fun_induction stringFrom left k cs generalizing r with
  | case1 | case4 | case5 | case7 | case9 => cases h
  | case2 k c cs ih => exact ih h
  | case3 cs => exact ⟨[], cs, rfl⟩
  | case6 cs c n hescape ih =>
    obtain ⟨r', hr, -⟩ := bind_eq_ok.1 h
    obtain ⟨q, rest, hrest⟩ := ih hr
    obtain ⟨p, hp⟩ := unicodeEscape_eq_some hescape
    exact ⟨p ++ q, rest, by rw [List.drop_zero, hp, hrest, Quoted.inner_append, List.append_assoc]⟩
  | case8 e cs hcode c hescape ih =>
    obtain ⟨r', hr, -⟩ := bind_eq_ok.1 h
    obtain ⟨q, rest, hrest⟩ := ih hr
    rw [List.drop_zero] at hrest
    exact ⟨.letter e c hescape :: q, rest, by rw [hrest]; rfl⟩
  | case10 c cs hquote hend _ hslash hcontrol ih =>
    obtain ⟨r', hr, -⟩ := bind_eq_ok.1 h
    obtain ⟨q, rest, hrest⟩ := ih hr
    rw [List.drop_zero] at hrest
    have hne : c ≠ '\\' := by
      intro hc
      cases cs with
      | nil => exact hend hc rfl
      | cons e cs => exact hslash e cs hc rfl
    exact ⟨.plain c ⟨by omega, hquote, hne⟩ :: q, rest, by rw [hrest]; rfl⟩

/-- What is read as a string is one. -/
theorem exists_quoted {s : List Char} (h : stringFrom left 0 cs = .ok (s, rest)) :
    ∃ q : Quoted, cs = q.inner ++ '"' :: rest ∧ q.chars = s := by
  obtain ⟨q, rest', hcs⟩ := exists_inner h
  rw [List.drop_zero] at hcs
  rw [hcs, stringFrom_inner] at h
  obtain ⟨hchars, rfl⟩ := Prod.mk.inj (Except.ok.inj h)
  exact ⟨q, hcs, hchars⟩

/-! ### Numbers -/

theorem wholeDigits_run (cs : List Char) : cs = wholeDigits cs ++ cs.drop (wholeDigits cs).length ∧
    (∀ c ∈ wholeDigits cs, c.isDigit = true) ∧
    ((wholeDigits cs).head? = some '0' → wholeDigits cs = ['0']) := by
  unfold wholeDigits
  split
  next => exact ⟨rfl, by decide, fun _ => rfl⟩
  next hzero =>
    refine ⟨?_, fun c hc => List.mem_takeWhile_imp hc, fun hhead => ?_⟩
    · rw [drop_length_takeWhile]
      exact List.takeWhile_append_dropWhile.symm
    · cases cs with
      | nil => cases hhead
      | cons c cs =>
        rw [List.takeWhile_cons] at hhead
        split at hhead
        next => exact (hzero cs (by rw [Option.some.inj hhead])).elim
        next => cases hhead

theorem fraction_run (cs : List Char) :
    cs = (if (fraction cs).1 = [] then [] else '.' :: (fraction cs).1) ++ (fraction cs).2 ∧
      ∀ c ∈ (fraction cs).1, c.isDigit = true := by
  unfold fraction
  split
  next ds =>
    dsimp only
    split
    next => exact ⟨rfl, nofun⟩
    next hne =>
      refine ⟨?_, fun c hc => List.mem_takeWhile_imp hc⟩
      rw [List.isEmpty_iff] at hne
      rw [if_neg hne, List.cons_append, List.takeWhile_append_dropWhile]
  next => exact ⟨rfl, nofun⟩

theorem exists_sign (cs : List Char) : ∃ sign tail, cs = sign ++ tail ∧
    sign ∈ [[], ['+'], ['-']] ∧ (sign = [] → Leaves isSign tail) := by
  cases cs with
  | nil => exact ⟨[], [], rfl, by decide, fun _ => rfl⟩
  | cons c cs =>
    cases h : isSign c with
    | false => exact ⟨[], c :: cs, rfl, by decide, fun _ => leaves_cons.2 h⟩
    | true =>
      refine ⟨[c], cs, rfl, ?_, nofun⟩
      simp only [isSign, Bool.or_eq_true, beq_iff_eq] at h
      rcases h with rfl | rfl <;> decide

theorem exponent_run (cs : List Char) : ∃ p : Option Power,
    cs = (p.map Power.text).getD [] ++ (exponent cs).2 ∧
      (exponent cs).1 = p.map Power.exponent := by
  cases cs with
  | nil => exact ⟨none, rfl, rfl⟩
  | cons e cs =>
    by_cases he : e = 'e' ∨ e = 'E'
    · obtain ⟨sign, tail, rfl, hsign, htail⟩ := exists_sign cs
      rw [exponent_sign he hsign htail]
      split
      next => exact ⟨none, rfl, rfl⟩
      next hne =>
        refine ⟨some ⟨e, sign, tail.takeWhile Char.isDigit, he, hsign, hne,
          fun c hc => List.mem_takeWhile_imp hc⟩, ?_, rfl⟩
        simp [Power.text]
    · refine ⟨none, ?_⟩
      simp [exponent, not_or.1 he]

theorem exists_numeral {negative : Bool} {v : Json} (h : number negative cs = .ok (v, rest)) :
    ∃ n : Numeral, (if negative then '-' :: cs else cs) = n.text ++ rest ∧ n.value = .ok v := by
  have hwhole := wholeDigits_run cs
  generalize hds : wholeDigits cs = ds at hwhole
  have hplaces := fraction_run (cs.drop ds.length)
  generalize hfraction : fraction (cs.drop ds.length) = places at hplaces
  obtain ⟨p, hpower, hexponent⟩ := exponent_run places.2
  by_cases hne : ds = []
  · simp [number, hds, hne] at h
  · let n : Numeral :=
      { negative, whole := ds, places := places.1, power := p, ne_nil := hne,
        areDigits := hwhole.2.1, leading := hwhole.2.2, arePlaces := hplaces.2 }
    have hread := n.number_of_parts hds hfraction (Prod.ext hexponent rfl)
    obtain ⟨v', hv, heq⟩ := map_eq_ok.1 (hread.symm.trans h)
    obtain ⟨rfl, rfl⟩ := Prod.mk.inj heq
    have hbody : cs = n.body ++ (exponent places.2).2 := by
      rw [Numeral.body, List.append_assoc, List.append_assoc, ← hpower, ← hplaces.1]
      exact hwhole.1
    refine ⟨n, ?_, hv⟩
    rw [Numeral.text]
    cases negative with
    | false => exact hbody
    | true => exact congrArg ('-' :: ·) hbody

/-! ### Phrases -/

theorem exists_word {found : Json × List Char} (h : word? cs = some found) :
    ∃ w, (w, found.1) ∈ words ∧ cs = w.toList ++ found.2 := by
  obtain ⟨⟨w, v⟩, hmem, hafter⟩ := List.exists_of_findSome?_eq_some h
  obtain ⟨rest, hrest, rfl⟩ := Option.map_eq_some_iff.1 hafter
  exact ⟨w, hmem, afterStart_eq_some_iff.1 hrest⟩

/-- What is read as a part of a text is one. -/
def ReadsPhrases (fuel : Nat) : Prop :=
  ∀ (p : Part) (cs rest : List Char) (x : p.Value), Leaves isSpace cs →
    p.read fuel cs = .ok (x, rest) →
      ∃ s : Phrase p, cs = s.text .written ++ rest ∧ s.value = .ok x

theorem exists_group (ih : ReadsPhrases fuel) (k : Kind) {v : Json}
    (h : value (fuel + 1) (k.opener :: cs) = .ok (v, rest)) :
    ∃ s : Phrase .value, k.opener :: cs = s.text .written ++ rest ∧ s.value = .ok v := by
  obtain ⟨g, hg⟩ := exists_gap_skipSpace cs
  by_cases hempty : ∃ r, skipSpace cs = k.closer :: r
  · obtain ⟨r, hr⟩ := hempty
    rw [value_empty hr] at h
    obtain ⟨rfl, rfl⟩ := Prod.mk.inj (Except.ok.inj h)
    refine ⟨.empty k g, ?_, rfl⟩
    rw [hr] at hg
    simp [Phrase.text, hg]
  · rw [value_group (not_exists.1 hempty)] at h
    obtain ⟨⟨xs, r⟩, hread, heq⟩ := map_eq_ok.1 h
    obtain ⟨rfl, rfl⟩ := Prod.mk.inj heq
    obtain ⟨es, htext, hvalue⟩ := ih (.entries k) _ _ _ (leaves_skipSpace cs) hread
    refine ⟨.group k g es, ?_, ?_⟩
    · rw [htext] at hg
      simp [Phrase.text, ← hg]
    · rw [Phrase.value, hvalue]
      rfl

theorem exists_value (ih : ReadsPhrases fuel) {v : Json}
    (h : value (fuel + 1) cs = .ok (v, rest)) :
    ∃ s : Phrase .value, cs = s.text .written ++ rest ∧ s.value = .ok v := by
  have hcases := h
  unfold value at hcases
  split at hcases
  next r =>
    obtain ⟨⟨s, rest'⟩, hstring, heq⟩ := bind_eq_ok.1 hcases
    obtain ⟨rfl, rfl⟩ := Prod.mk.inj (Except.ok.inj heq)
    obtain ⟨q, rfl, rfl⟩ := exists_quoted hstring
    exact ⟨.scalar (.quoted q), by simp [Phrase.text, Scalar.text, Quoted.text], rfl⟩
  next r => exact exists_group ih .array h
  next r => exact exists_group ih .object h
  next =>
    split at hcases
    next found hword =>
      obtain rfl := Except.ok.inj hcases
      obtain ⟨w, hmem, hcs⟩ := exists_word hword
      exact ⟨.scalar (.word w _ hmem), hcs, rfl⟩
    next r =>
      obtain ⟨n, htext, hvalue⟩ := exists_numeral hcases
      exact ⟨.scalar (.numeral n), htext, hvalue⟩
    next =>
      obtain ⟨n, htext, hvalue⟩ := exists_numeral hcases
      exact ⟨.scalar (.numeral n), htext, hvalue⟩

/-- An entry is its label and a value, and what goes on behind them. -/
theorem exists_label (k : Kind) {r : Front (List k.Entry)} (hcs : Leaves isSpace cs)
    (h : Part.read (.entries k) (fuel + 1) cs = .ok r) :
    ∃ label cs', Leaves isSpace cs' ∧ cs = k.label .written label ++ cs' ∧
      ((value fuel cs').bind fun x => k.goOn (k.entry label x.1) fuel (skipSpace x.2)) = .ok r := by
  cases k with
  | array => exact ⟨(), cs, hcs, rfl, (items_succ fuel cs).symm.trans h⟩
  | object =>
    have hcases := h
    simp only [Part.read, members] at hcases
    split at hcases
    next cs =>
      obtain ⟨⟨s, behind⟩, hname, hbehind⟩ := bind_eq_ok.1 hcases
      obtain ⟨q, hq, rfl⟩ := exists_quoted hname
      obtain ⟨g, hg⟩ := exists_gap_skipSpace behind
      dsimp only at hbehind
      split at hbehind
      next tail hcolon =>
        obtain ⟨g', hg'⟩ := exists_gap_skipSpace tail
        refine ⟨⟨q, g, g'⟩, skipSpace tail, leaves_skipSpace tail, ?_, ?_⟩
        · rw [hcolon, hg'] at hg
          simp [Kind.label, Quoted.text, hq, hg]
        · exact (members_succ hname hcolon fuel).symm.trans h
      next => cases hbehind
    next => cases hcases

theorem goOn_eq_ok (k : Kind) {e : k.Entry} {xs : List k.Entry}
    (h : k.goOn e fuel cs = .ok (xs, rest)) :
    (cs = k.closer :: rest ∧ xs = [e]) ∨
      ∃ cs' es, cs = ',' :: cs' ∧ Part.read (.entries k) fuel (skipSpace cs') = .ok (es, rest) ∧
        xs = e :: es := by
  unfold Kind.goOn at h
  split at h
  next => cases h
  next c cs =>
    split at h
    next hc =>
      obtain ⟨rfl, rfl⟩ := Prod.mk.inj (Except.ok.inj h)
      exact .inl ⟨by rw [hc], rfl⟩
    next =>
      split at h
      next hc =>
        obtain ⟨⟨es, rest'⟩, hes, heq⟩ := map_eq_ok.1 h
        obtain ⟨rfl, rfl⟩ := Prod.mk.inj heq
        exact .inr ⟨cs, es, by rw [hc], hes, rfl⟩
      next => cases h

theorem exists_entries (ih : ReadsPhrases fuel) (k : Kind) {xs : List k.Entry}
    (hcs : Leaves isSpace cs) (h : Part.read (.entries k) (fuel + 1) cs = .ok (xs, rest)) :
    ∃ s : Phrase (.entries k), cs = s.text .written ++ rest ∧ s.value = .ok xs := by
  obtain ⟨label, cs', hleaves, rfl, hread⟩ := exists_label k hcs h
  obtain ⟨⟨x, r⟩, hvalue, hgo⟩ := bind_eq_ok.1 hread
  obtain ⟨v, rfl, hv⟩ := ih .value _ _ _ hleaves hvalue
  obtain ⟨g, hg⟩ := exists_gap_skipSpace r
  rcases goOn_eq_ok k hgo with ⟨hcloser, rfl⟩ | ⟨cs'', es, hcomma, hes, rfl⟩
  · refine ⟨.last label v g none, ?_, ?_⟩
    · rw [hcloser] at hg
      simp [Phrase.text, ← hg]
    · rw [Phrase.value, hv]
      rfl
  · obtain ⟨g', hg'⟩ := exists_gap_skipSpace cs''
    obtain ⟨s, hs, hsvalue⟩ := ih (.entries k) _ _ _ (leaves_skipSpace cs'') hes
    refine ⟨.more label v g g' s, ?_, ?_⟩
    · rw [hs] at hg'
      rw [hcomma] at hg
      simp [Phrase.text, ← hg, ← hg']
    · rw [Phrase.value, hv, hsvalue]
      rfl

theorem readsPhrases (fuel : Nat) : ReadsPhrases fuel := by
  induction fuel with
  | zero =>
    intro p cs rest x _ h
    cases p with
    | value => exact nomatch h
    | entries k => cases k <;> exact nomatch h
  | succ fuel ih =>
    intro p cs rest x hcs h
    cases p with
    | value => exact exists_value ih h
    | entries k => exact exists_entries ih k hcs h

/-- Every text of plain JSON is that of a tree with blanks around it, and is read as what the tree
means. -/
theorem exists_document {text : String} {v : Json} (h : read text = .ok v) :
    ∃ d : Document, text = String.ofList d.text ∧ d.body.value = .ok v := by
  obtain ⟨before, hbefore⟩ := exists_gap_skipSpace text.toList
  obtain ⟨⟨x, rest⟩, hread, hrest⟩ := bind_eq_ok.1 h
  have hpart : Part.value.read (2 * text.toList.length + 2) (skipSpace text.toList) =
      .ok (x, rest) := hread
  obtain ⟨body, hbody, hvalue⟩ := readsPhrases _ .value _ rest x (leaves_skipSpace _) hpart
  obtain ⟨after, hafter⟩ := exists_gap_skipSpace rest
  dsimp only at hrest
  split at hrest
  next hempty =>
    obtain rfl := Except.ok.inj hrest
    refine ⟨⟨before, body, after, none⟩, ?_, hvalue⟩
    rw [List.isEmpty_iff.1 hempty, List.append_nil] at hafter
    rw [hbody, hafter] at hbefore
    rw [Document.text, Document.ending, Option.map_none, Option.getD_none, List.append_nil,
      ← hbefore, String.ofList_toList]
  next => cases hrest

end Coselect.Json
