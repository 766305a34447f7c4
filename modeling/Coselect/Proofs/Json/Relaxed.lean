import Coselect.Proofs.Imports.Comments
import Coselect.Proofs.Json.Accepted

/-! Reading relaxed JSON. Blanking comments takes a text from its written layout to one with blanks
in their place, and dropping trailing commas from there to the plain layout; but it also drops commas
in front of brackets within strings, so what is read is what the tree with tidied strings means. -/

namespace Coselect.Json

open Imports Text

variable {rest cs xs ys xs' ys' : List Char} {p : Part}

/-! ### Blanking comments -/

/-- Blanking makes one text of another, whatever follows it. -/
def BlankedTo (xs ys : List Char) : Prop :=
  ∀ rest, blankFrom .code (xs ++ rest) = ys ++ blankFrom .code rest

namespace BlankedTo

theorem append (h : BlankedTo xs ys) (h' : BlankedTo xs' ys') :
    BlankedTo (xs ++ xs') (ys ++ ys') := by
  intro rest
  rw [List.append_assoc, h, h', List.append_assoc]

theorem of_bare (h : ∀ c ∈ xs, isBare c = true) : BlankedTo xs xs := fun _ => blankFrom_bare h

theorem cons {c : Char} (hc : isBare c = true) (h : BlankedTo xs ys) :
    BlankedTo (c :: xs) (c :: ys) :=
  append (of_bare (List.forall_mem_singleton.2 hc)) h

end BlankedTo

theorem blankedTo_filler (f : Filler) : BlankedTo f.text f.blanked := by
  cases f with
  | space c h =>
    exact .of_bare (List.forall_mem_singleton.2 (isBare_of_isBlank (isBlank_of_isSpace h)))
  | line cs h =>
    intro rest
    have hline := blankFrom_lineComment ('\n' :: rest) h
    simp only [Filler.text, Filler.blanked, List.append_assoc, List.cons_append, List.nil_append]
    exact hline
  | block cs h =>
    intro rest
    have hblock := blankFrom_blockComment rest h
    simp only [Filler.text, Filler.blanked, List.append_assoc]
    exact hblock

theorem blankedTo_gap (g : Gap) : BlankedTo (Layout.written.gap g) (Layout.blanked.gap g) := by
  change BlankedTo (g.flatMap Filler.text) (g.flatMap Filler.blanked)
  induction g with
  | nil => exact fun _ => rfl
  | cons f g ih => exact (blankedTo_filler f).append ih

/-! ### Strings -/

/-- The character stands for itself within a string. -/
def isInner (c : Char) : Bool := c != '"' && c != '\\' && c != '\n'

theorem closes_of_inner (h : ∀ c ∈ xs, isInner c = true) (rest : List Char) :
    closes '"' (xs ++ rest) = closes '"' rest := by
  induction xs with
  | nil => rfl
  | cons c xs ih =>
    obtain ⟨hc, hxs⟩ := List.forall_mem_cons.1 h
    simp only [isInner, Bool.and_eq_true, bne_iff_ne] at hc
    rw [List.cons_append, closes]
    · rw [beq_false_of_ne hc.1.1, bne_iff_ne.2 hc.1.2, bne_iff_ne.2 hc.2, ih hxs]
      rfl
    · rintro r rfl -
      exact hc.1.2 rfl
    · rintro c' r rfl -
      exact hc.1.2 rfl

theorem blankFrom_of_inner (h : ∀ c ∈ xs, isInner c = true) (rest : List Char) :
    blankFrom (.literal '"') (xs ++ rest) = xs ++ blankFrom (.literal '"') rest := by
  induction xs with
  | nil => rfl
  | cons c xs ih =>
    obtain ⟨hc, hxs⟩ := List.forall_mem_cons.1 h
    simp only [isInner, Bool.and_eq_true, bne_iff_ne] at hc
    simp [blankFrom, Mode.next, Mode.blanks, hc.1.1, hc.1.2, ih hxs]

theorem isInner_of_hex4 {ds : List Char} {n : Nat} (h : ds.length = 4 ∧ hex4 ds = some n) :
    ∀ c ∈ ds, isInner c = true ∧ c ≠ ',' := by
  obtain ⟨hlength, hhex⟩ := h
  unfold hex4 at hhex
  dsimp only at hhex
  split at hhex
  next hall =>
    intro c hc
    rw [← hlength, List.take_length] at hall
    have hdigit : (Number.hexValue? c).isSome = true := List.all_eq_true.1 hall.2 c hc
    have hne : ∀ a ∈ ['"', '\\', '\n', ','], c ≠ a :=
      forall_ne_of_class (p := fun c => (Number.hexValue? c).isSome) hdigit (by decide)
    simpa [isInner, and_assoc] using hne
  next => cases hhex

/-- A literal passes over what stands between the quotes of a string. -/
theorem closes_atom (a : Atom) (rest : List Char) :
    closes '"' (a.text ++ rest) = closes '"' rest := by
  cases a with
  | plain c h =>
    refine closes_of_inner (List.forall_mem_singleton.2 ?_) rest
    have hline : c ≠ '\n' := by
      rintro rfl
      exact absurd h.1 (by decide)
    simp [isInner, h.2, hline]
  | letter e c h =>
    have hline : e ≠ '\n' := by
      rintro rfl
      exact nomatch h
    rw [Atom.text, List.cons_append, List.cons_append, List.nil_append, closes]
    exact hline
  | code ds n h =>
    have hcode : closes '"' ((Atom.code ds n h).text ++ rest) = closes '"' (ds ++ rest) := by
      simp [Atom.text, closes]
    rw [hcode]
    exact closes_of_inner (fun c hc => (isInner_of_hex4 h c hc).1) rest

theorem blankFrom_atom (a : Atom) (rest : List Char) :
    blankFrom (.literal '"') (a.text ++ rest) = a.text ++ blankFrom (.literal '"') rest := by
  cases a with
  | plain c h => simp [Atom.text, blankFrom, Mode.next, Mode.blanks, h.2]
  | letter e c h => simp [Atom.text, blankFrom, Mode.next, Mode.blanks]
  | code ds n h =>
    have hds := blankFrom_of_inner (fun c hc => (isInner_of_hex4 h c hc).1) rest
    simp [Atom.text, blankFrom, Mode.next, Mode.blanks, hds]

theorem closes_inner (q : Quoted) (rest : List Char) :
    closes '"' (q.inner ++ '"' :: rest) = true := by
  induction q with
  | nil => simp [Quoted.inner, closes]
  | cons a as ih => rw [Quoted.inner_cons, List.append_assoc, closes_atom, ih]

theorem blankFrom_inner (q : Quoted) (rest : List Char) :
    blankFrom (.literal '"') (q.inner ++ '"' :: rest) = q.inner ++ '"' :: blankFrom .code rest := by
  induction q with
  | nil => simp [Quoted.inner, blankFrom, Mode.next, Mode.blanks]
  | cons a as ih =>
    rw [Quoted.inner_cons, List.append_assoc, blankFrom_atom, ih, List.append_assoc]

/-- Comment marks within a string survive. -/
theorem blankedTo_quoted (q : Quoted) : BlankedTo q.text q.text := by
  intro rest
  simp [Quoted.text, blankFrom, Mode.next, Mode.blanks, isQuote, closes_inner, blankFrom_inner]

/-! ### Scalars and phrases -/

/-- The characters of words and numbers are those of no other token. -/
def isLoose (c : Char) : Bool := isBare c && c != ','

theorem isLoose_of_isDigit {c : Char} (h : c.isDigit = true) : isLoose c = true := by
  have hne : ∀ a ∈ ['"', '\'', backquote, '/', ','], c ≠ a := forall_ne_of_class h (by decide)
  simpa [isLoose, isBare, isQuote, and_assoc] using hne

theorem Power.isLoose_text (p : Power) : ∀ c ∈ p.text, isLoose c = true := by
  have hsign := p.isSign
  simp only [List.mem_cons, List.not_mem_nil, or_false] at hsign
  intro c hc
  rcases List.mem_cons.1 hc with rfl | hc
  · rcases p.isLetter with h | h <;> rw [h] <;> decide
  · rcases List.mem_append.1 hc with hc | hc
    · rcases hsign with h | h | h <;> simp only [h, List.mem_singleton, List.not_mem_nil] at hc
      all_goals rw [hc]; decide
    · exact isLoose_of_isDigit (p.areDigits c hc)

theorem Numeral.isLoose_body (n : Numeral) : ∀ c ∈ n.body, isLoose c = true := by
  intro c hc
  rcases List.mem_append.1 hc with hc | hc
  · exact isLoose_of_isDigit (n.areDigits c hc)
  rcases List.mem_append.1 hc with hc | hc
  · split at hc
    next => cases hc
    next =>
      rcases List.mem_cons.1 hc with rfl | hc
      · decide
      · exact isLoose_of_isDigit (n.arePlaces c hc)
  · cases hpower : n.power with
    | none => simp [hpower] at hc
    | some p =>
      simp only [hpower, Option.map_some, Option.getD_some] at hc
      exact p.isLoose_text c hc

theorem Numeral.isLoose_text (n : Numeral) : ∀ c ∈ n.text, isLoose c = true := by
  unfold text
  split
  next => exact List.forall_mem_cons.2 ⟨by decide, n.isLoose_body⟩
  next => exact n.isLoose_body

theorem isLoose_word {w : String} {v : Json} (h : (w, v) ∈ words) :
    ∀ c ∈ w.toList, isLoose c = true := by
  simp only [words, List.mem_cons, Prod.mk.injEq, List.not_mem_nil, or_false] at h
  rcases h with ⟨rfl, rfl⟩ | ⟨rfl, rfl⟩ | ⟨rfl, rfl⟩ | ⟨rfl, rfl⟩ | ⟨rfl, rfl⟩ | ⟨rfl, rfl⟩
  all_goals decide

theorem blankedTo_scalar (s : Scalar) : BlankedTo s.text s.text := by
  have hbare {cs : List Char} (h : ∀ c ∈ cs, isLoose c = true) : BlankedTo cs cs :=
    .of_bare fun c hc => (Bool.and_eq_true_iff.1 (h c hc)).1
  cases s with
  | word w v h => exact hbare (isLoose_word h)
  | numeral n => exact hbare n.isLoose_text
  | quoted q => exact blankedTo_quoted q

theorem blankedTo_label (k : Kind) (label : k.Label) :
    BlankedTo (k.label .written label) (k.label .blanked label) := by
  cases k with
  | array => exact fun _ => rfl
  | object =>
    exact (blankedTo_quoted label.name).append
      ((blankedTo_gap label.after).append (.cons (by decide) (blankedTo_gap label.before)))

theorem blankedTo_trailing (trailing : Option Gap) :
    BlankedTo ((trailing.map Layout.written.trailing).getD [])
      ((trailing.map Layout.blanked.trailing).getD []) := by
  cases trailing with
  | none => exact fun _ => rfl
  | some g => exact .cons (by decide) (blankedTo_gap g)

/-- Blanking the comments of a phrase leaves everything else. -/
theorem blankedTo_phrase (s : Phrase p) : BlankedTo (s.text .written) (s.text .blanked) := by
  have hopener (k : Kind) : isBare k.opener = true := by cases k <;> decide
  have hcloser (k : Kind) : BlankedTo [k.closer] [k.closer] := .of_bare (by cases k <;> decide)
  induction s with
  | scalar s => exact blankedTo_scalar s
  | empty k inside => exact .cons (hopener k) ((blankedTo_gap inside).append (hcloser k))
  | group k before es ih => exact .cons (hopener k) ((blankedTo_gap before).append ih)
  | @last k label v after trailing ih =>
    exact (blankedTo_label k label).append
      (ih.append ((blankedTo_gap after).append ((blankedTo_trailing trailing).append (hcloser k))))
  | @more k label v after before es ihv ihes =>
    have hentries := (blankedTo_gap before).append ihes
    exact (blankedTo_label k label).append
      (ihv.append ((blankedTo_gap after).append (.cons (by decide) hentries)))

/-! ### Dropping commas -/

theorem closesNext_cons (c : Char) (cs : List Char) : closesNext (c :: cs) =
    if isBlank c then closesNext cs else c == ']' || c == '\x7d' := by
  cases h : isBlank c <;> simp [closesNext, h]

theorem closesNext_of_isSpace (h : ∀ c ∈ xs, isSpace c = true) (rest : List Char) :
    closesNext (xs ++ rest) = closesNext rest := by
  induction xs with
  | nil => rfl
  | cons c xs ih =>
    obtain ⟨hc, hxs⟩ := List.forall_mem_cons.1 h
    rw [List.cons_append, closesNext_cons, if_pos (isBlank_of_isSpace hc), ih hxs]

/-- What closes within a string closes before its closing quote. -/
theorem closesNext_quote (xs rest : List Char) :
    closesNext (xs ++ '"' :: rest) = closesNext xs := by
  induction xs with
  | nil => exact closesNext_cons '"' rest
  | cons c xs ih => rw [List.cons_append, closesNext_cons, closesNext_cons, ih]

theorem Phrase.closesNext_text (l : Layout) (s : Phrase p) (rest : List Char) :
    closesNext (s.text l ++ rest) = false := by
  obtain ⟨c, cs, htext, hc⟩ := s.exists_text l
  simp only [opens, Bool.and_eq_true, Bool.not_eq_true', bne_iff_ne] at hc
  rw [htext, List.cons_append, closesNext_cons, hc.1.1]
  simp [hc.1.2, hc.2]

/-- Dropping commas makes one text of another, whatever follows it. -/
def TidiedTo (xs ys : List Char) : Prop :=
  ∀ rest, dropTrailingCommas (xs ++ rest) = ys ++ dropTrailingCommas rest

namespace TidiedTo

theorem append (h : TidiedTo xs ys) (h' : TidiedTo xs' ys') : TidiedTo (xs ++ xs') (ys ++ ys') := by
  intro rest
  rw [List.append_assoc, h, h', List.append_assoc]

theorem of_notMem (h : ',' ∉ xs) : TidiedTo xs xs := by
  intro rest
  induction xs with
  | nil => rfl
  | cons c xs ih =>
    obtain ⟨hc, hxs⟩ := not_or.1 (mt List.mem_cons.2 h)
    simp [dropTrailingCommas, Ne.symm hc, ih hxs]

theorem cons {c : Char} (hc : c ≠ ',') (h : TidiedTo xs ys) : TidiedTo (c :: xs) (c :: ys) :=
  append (of_notMem (mt List.mem_singleton.1 hc.symm)) h

/-- A comma stays in front of what does not close. -/
theorem cons_comma (h : TidiedTo xs ys) (hkept : ∀ rest, closesNext (xs ++ rest) = false) :
    TidiedTo (',' :: xs) (',' :: ys) := by
  intro rest
  rw [List.cons_append, dropTrailingCommas, hkept, h]
  rfl

/-- In front of what closes it is dropped. -/
theorem drop_comma (h : TidiedTo xs ys) (hdropped : ∀ rest, closesNext (xs ++ rest) = true) :
    TidiedTo (',' :: xs) ys := by
  intro rest
  rw [List.cons_append, dropTrailingCommas, hdropped, h]
  rfl

end TidiedTo

theorem isSpace_map_blankChar (cs : List Char) : ∀ c ∈ cs.map blankChar, isSpace c = true := by
  intro c hc
  obtain ⟨d, -, rfl⟩ := List.mem_map.1 hc
  unfold blankChar
  split
  next h => rw [beq_iff_eq.1 h]; decide
  next => decide

theorem Filler.isSpace_blanked (f : Filler) : ∀ c ∈ f.blanked, isSpace c = true := by
  cases f with
  | space c h => exact List.forall_mem_singleton.2 h
  | line cs h =>
    exact List.forall_mem_append.2
      ⟨isSpace_map_blankChar _, List.forall_mem_singleton.2 (by decide)⟩
  | block cs h => exact isSpace_map_blankChar _

theorem isSpace_blanked_gap (g : Gap) : ∀ c ∈ g.flatMap Filler.blanked, isSpace c = true := by
  intro c hc
  obtain ⟨f, -, hf⟩ := List.mem_flatMap.1 hc
  exact f.isSpace_blanked c hf

theorem Layout.spaced_plain : plain.Spaced := ⟨isSpace_blanked_gap, isSpace_blanked_gap⟩

theorem Layout.spaced_compact : compact.Spaced := ⟨fun _ => nofun, fun _ => nofun⟩

theorem tidiedTo_of_isSpace (h : ∀ c ∈ xs, isSpace c = true) : TidiedTo xs xs :=
  .of_notMem (notMem_of_class h (by decide))

theorem tidiedTo_gap (g : Gap) : TidiedTo (Layout.blanked.gap g) (Layout.plain.gap g) :=
  tidiedTo_of_isSpace (isSpace_blanked_gap g)

theorem closesNext_gap (g : Gap) (rest : List Char) :
    closesNext (Layout.blanked.gap g ++ rest) = closesNext rest :=
  closesNext_of_isSpace (isSpace_blanked_gap g) rest

/-- An atom that is more than a comma holds none. -/
theorem Atom.notMem_of_text_ne (a : Atom) (h : a.text ≠ [',']) : ',' ∉ a.text := by
  cases a with
  | plain c hc =>
    intro hmem
    exact h (congrArg ([·]) (List.mem_singleton.1 hmem).symm)
  | letter e c he =>
    intro hmem
    simp only [text, List.mem_cons, List.not_mem_nil, or_false] at hmem
    rcases hmem with hmem | rfl
    · exact absurd hmem (by decide)
    · cases he
  | code ds n hds =>
    intro hmem
    simp only [text, List.mem_cons] at hmem
    rcases hmem with hmem | hmem | hmem
    · exact absurd hmem (by decide)
    · exact absurd hmem (by decide)
    · exact (isInner_of_hex4 hds _ hmem).2 rfl

theorem tidiedTo_inner (q : Quoted) : TidiedTo (q.inner ++ ['"']) (q.tidied.inner ++ ['"']) := by
  induction q with
  | nil => exact .of_notMem (by decide)
  | cons a as ih =>
    have hcloses (rest : List Char) : closesNext (Quoted.inner as ++ ['"'] ++ rest) =
        closesNext (Quoted.inner as) := by
      rw [List.append_assoc]
      exact closesNext_quote ..
    rw [Quoted.inner_cons, Quoted.tidied]
    by_cases hcomma : a.text = [',']
    · cases hclosing : closesNext (Quoted.inner as) with
      | true =>
        rw [if_pos ⟨hcomma, rfl⟩, hcomma]
        exact .drop_comma ih fun rest => (hcloses rest).trans hclosing
      | false =>
        rw [if_neg (by simp), Quoted.inner_cons, hcomma]
        exact .cons_comma ih fun rest => (hcloses rest).trans hclosing
    · rw [if_neg fun h => hcomma h.1, Quoted.inner_cons, List.append_assoc, List.append_assoc]
      exact (TidiedTo.of_notMem (a.notMem_of_text_ne hcomma)).append ih

theorem tidiedTo_quoted (q : Quoted) : TidiedTo q.text q.tidied.text :=
  .cons (by decide) (tidiedTo_inner q)

theorem tidiedTo_scalar (s : Scalar) : TidiedTo s.text s.tidied.text := by
  have hloose {cs : List Char} (h : ∀ c ∈ cs, isLoose c = true) : TidiedTo cs cs :=
    .of_notMem (notMem_of_class h (by decide))
  cases s with
  | word w v h => exact hloose (isLoose_word h)
  | numeral n => exact hloose n.isLoose_text
  | quoted q => exact tidiedTo_quoted q

theorem tidiedTo_label (k : Kind) (label : k.Label) :
    TidiedTo (k.label .blanked label) (k.label .plain (k.tidied label)) := by
  cases k with
  | array => exact fun _ => rfl
  | object =>
    exact (tidiedTo_quoted label.name).append
      ((tidiedTo_gap label.after).append (.cons (by decide) (tidiedTo_gap label.before)))

theorem tidiedTo_closer (k : Kind) (trailing : Option Gap) :
    TidiedTo ((trailing.map Layout.blanked.trailing).getD [] ++ [k.closer])
      ((trailing.map Layout.plain.trailing).getD [] ++ [k.closer]) := by
  have hcloser : TidiedTo [k.closer] [k.closer] := .of_notMem (by cases k <;> decide)
  cases trailing with
  | none => exact hcloser
  | some g =>
    refine .drop_comma ((tidiedTo_gap g).append hcloser) fun rest => ?_
    have hclosing : closesNext (k.closer :: rest) = true := by
      rw [closesNext_cons]
      cases k <;> rfl
    exact (congrArg closesNext (List.append_assoc ..)).trans ((closesNext_gap g _).trans hclosing)

/-- Dropping commas takes them from behind the last entries, and from strings. -/
theorem tidiedTo_phrase (s : Phrase p) : TidiedTo (s.text .blanked) (s.tidied.text .plain) := by
  have hopener (k : Kind) : k.opener ≠ ',' := by cases k <;> decide
  have hcloser (k : Kind) : TidiedTo [k.closer] [k.closer] := .of_notMem (by cases k <;> decide)
  induction s with
  | scalar s => exact tidiedTo_scalar s
  | empty k inside => exact .cons (hopener k) ((tidiedTo_gap inside).append (hcloser k))
  | group k before es ih => exact .cons (hopener k) ((tidiedTo_gap before).append ih)
  | @last k label v after trailing ih =>
    exact (tidiedTo_label k label).append
      (ih.append ((tidiedTo_gap after).append (tidiedTo_closer k trailing)))
  | @more k label v after before es ihv ihes =>
    refine (tidiedTo_label k label).append (ihv.append ((tidiedTo_gap after).append
      (.cons_comma ((tidiedTo_gap before).append ihes) fun rest => ?_)))
    rw [List.append_assoc, closesNext_gap, es.closesNext_text]

/-! ### Whole texts -/

/-- A text that is one value, with blanks around it, is read as what the value means. -/
theorem readChars_text {l : Layout} (hl : l.Spaced) (s : Phrase .value)
    (hxs : ∀ c ∈ xs, isSpace c = true) (hys : ∀ c ∈ ys, isSpace c = true) :
    readChars (xs ++ (s.text l ++ ys)) = s.value := by
  have hskip : skipSpace ys = [] := by simpa using skipSpace_append hys leaves_nil
  have hfuel : 2 * (s.text l).length ≤ 2 * (xs ++ (s.text l ++ ys)).length + 2 := by
    simp only [List.length_append]
    omega
  have hends : Leaves continues ys := by simpa using leaves_continues_append hys leaves_nil
  have hread := s.read_text hl hfuel fun _ => hends
  rw [Part.read] at hread
  rw [readChars, skipSpace_append hxs (s.leaves_isSpace l ys), hread]
  cases s.value with
  | error e => rfl
  | ok v =>
    dsimp only [Except.map, bind, Except.bind]
    rw [hskip]
    rfl

theorem Quoted.tidied_eq {q : Quoted} (h : q.Tidy) : q.tidied = q := by
  induction q with
  | nil => rfl
  | cons a as ih =>
    have has : Quoted.Tidy as := fun before after heq =>
      h (a.text ++ before) after (by rw [inner_cons, heq, List.append_assoc])
    rw [tidied, ih has]
    split
    next hcomma =>
      have hopen := h [] (inner as) (by rw [inner_cons, hcomma.1]; rfl)
      rw [hcomma.2] at hopen
      cases hopen
    next => rfl

theorem Phrase.tidied_eq {s : Phrase p} (h : ∀ q ∈ s.strings, q.Tidy) : s.tidied = s := by
  have hlabel {k : Kind} {label : k.Label} (h : ∀ q ∈ k.strings label, q.Tidy) :
      k.tidied label = label := by
    cases k with
    | array => rfl
    | object =>
      have hname := Quoted.tidied_eq (h label.name (List.mem_singleton.2 rfl))
      rw [Kind.tidied, hname]
      rfl
  induction s with
  | scalar s =>
    cases s with
    | word w v hw => rfl
    | numeral n => rfl
    | quoted q =>
      have hq := Quoted.tidied_eq (h q (List.mem_singleton.2 rfl))
      simp only [tidied, Scalar.tidied, hq]
  | empty k inside => rfl
  | group k before es ih => rw [tidied, ih h]
  | last label v after trailing ih =>
    simp only [strings, List.forall_mem_append] at h
    rw [tidied, hlabel h.1, ih h.2]
  | more label v after before es ihv ihes =>
    simp only [strings, List.forall_mem_append] at h
    rw [tidied, hlabel h.1, ihv h.2.1, ihes h.2.2]

/-- A comment at the end of a text leaves blanks. -/
theorem Document.isSpace_ending (d : Document) :
    ∀ c ∈ blankFrom .code d.ending, isSpace c = true := by
  unfold ending
  cases d.remark with
  | none => nofun
  | some cs =>
    have hline := blankFrom_lineComment [] cs.2
    rw [List.append_nil, blankFrom, List.append_nil] at hline
    rw [Option.map_some, Option.getD_some, hline]
    exact isSpace_map_blankChar _

/-- What is read is the value with tidied strings. -/
theorem readRelaxed_tidied (d : Document) :
    readRelaxed (String.ofList d.text) = d.body.tidied.value := by
  have hblanked : blankComments d.text = _ := ((blankedTo_gap d.before).append
    ((blankedTo_phrase d.body).append (blankedTo_gap d.after))) d.ending
  have htidied := ((tidiedTo_gap d.before).append ((tidiedTo_phrase d.body).append
    (tidiedTo_gap d.after))) (blankFrom .code d.ending)
  have hending := tidiedTo_of_isSpace d.isSpace_ending []
  rw [List.append_nil, dropTrailingCommas, List.append_nil] at hending
  rw [readRelaxed, String.toList_ofList, hblanked, htidied, hending, List.append_assoc,
    List.append_assoc]
  exact readChars_text Layout.spaced_plain _ (isSpace_blanked_gap d.before)
    (List.forall_mem_append.2 ⟨isSpace_blanked_gap d.after, d.isSpace_ending⟩)

/-- What reading relaxed JSON does to every text made of a JSON value by adding blanks, comments and
trailing commas: what is read is the value in which every string has lost the commas in front of a
closing bracket or brace, and so the value itself where no string has such a comma. Reading plain
JSON comes to the value with any blanks between the tokens, and accepts no other texts. -/
theorem readRelaxed_text (text : String) (d : Document) :
    (∀ v, read text = .ok v →
      ∃ d : Document, text = String.ofList d.text ∧ d.body.value = .ok v) ∧
    (∀ l, l.Spaced → read (String.ofList (d.body.text l)) = d.body.value) ∧
      readRelaxed (String.ofList d.text) = d.body.tidied.value ∧
      ((∀ q ∈ d.body.strings, q.Tidy) → readRelaxed (String.ofList d.text) = d.body.value) := by
  refine ⟨fun v => exists_document, fun l hl => ?_, readRelaxed_tidied d, fun h => ?_⟩
  · have hread := readChars_text hl d.body (List.forall_mem_nil _) (List.forall_mem_nil _)
    rw [List.nil_append, List.append_nil] at hread
    rw [read, String.toList_ofList, hread]
  · rw [readRelaxed_tidied, Phrase.tidied_eq h]

/-- A list with a comma behind its only string and a comment behind that. -/
theorem readRelaxed_text_commented :
    read "[\"a\"]" = .ok (.arr [.str "a"]) ∧
      readRelaxed "[\"a\", // first\n]" = .ok (.arr [.str "a"]) ∧
      ∃ d : Document, "[\"a\"]" = String.ofList d.text ∧ d.body.value = .ok (.arr [.str "a"]) := by
  let a : Quoted := [.plain 'a' (by decide)]
  let body : Phrase .value := .group .array [] (.last () (.scalar (.quoted a)) []
    (some [.space ' ' rfl, .line " first".toList (by decide)]))
  have htidy : a.Tidy := by
    intro before after h
    have hcomma : ',' ∈ a.inner := h ▸ List.mem_append_right _ List.mem_cons_self
    exact absurd hcomma (by decide)
  obtain ⟨hwritten, hplain, -, hrelaxed⟩ := readRelaxed_text "[\"a\"]" ⟨[], body, [], none⟩
  have hread : read "[\"a\"]" = .ok (.arr [.str "a"]) := hplain .compact Layout.spaced_compact
  exact ⟨hread, hrelaxed (List.forall_mem_singleton.2 htidy), hwritten _ hread⟩

/-- A string may lose a comma, so plain JSON is not always read alike. -/
theorem string_loses_comma :
    ¬ ∀ text v, read text = .ok v → readRelaxed text = .ok v := by
  intro h
  have hplain : read "\",]\"" = .ok (.str ",]") := rfl
  have hrelaxed : readRelaxed "\",]\"" = .ok (.str "]") := rfl
  have heq := hrelaxed.symm.trans (h _ _ hplain)
  have hstr : "]" = ",]" := Json.str.inj (Except.ok.inj heq)
  exact absurd hstr (by decide)

end Coselect.Json
