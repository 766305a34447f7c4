import Coselect.Proofs.Json.Phrase
import Coselect.Proofs.Text.Words

/-! Reading a tree of JSON. In any layout that leaves only blanks between the tokens, a text that
begins with a tree is read up to the end of the tree and comes to what the tree means. -/

namespace Coselect.Json

open Text

variable {rest cs ds : List Char} {left : Nat}

/-! ### Strings -/

theorem hex4_append (h : ds.length = 4) (rest : List Char) : hex4 (ds ++ rest) = hex4 ds := by
  rw [hex4, hex4, ← h, List.take_left, List.take_length]

theorem stringFrom_skip (left : Nat) (xs rest : List Char) :
    stringFrom left xs.length (xs ++ rest) = stringFrom left 0 rest := by
  induction xs with
  | nil => rfl
  | cons c xs ih => exact ih

theorem ne_quote_of_simpleEscape {e c : Char} (h : simpleEscape? e = some c) : e ≠ 'u' := by
  rintro rfl
  exact nomatch h

section Step

variable {c : Char} {s : List Char} (hread : stringFrom left 0 cs = .ok (s, rest))

include hread

theorem stringFrom_plain (h : 32 ≤ c.toNat ∧ c ≠ '"' ∧ c ≠ '\\') :
    stringFrom left 0 (c :: cs) = .ok (c :: s, rest) := by
  rw [stringFrom]
  · rw [if_neg (by omega), hread]
    rfl
  · rintro rfl
    exact h.2.1 rfl
  · rintro rfl -
    exact h.2.2 rfl
  · rintro cs rfl -
    exact h.2.2 rfl
  · rintro e cs rfl -
    exact h.2.2 rfl

theorem stringFrom_letter {e : Char} (h : simpleEscape? e = some c) :
    stringFrom left 0 ('\\' :: e :: cs) = .ok (c :: s, rest) := by
  rw [stringFrom]
  · rw [h, hread]
    rfl
  · exact fun heq => ne_quote_of_simpleEscape h heq

theorem stringFrom_code {xs : List Char} (h : unicodeEscape (xs ++ cs) = some (c, xs.length)) :
    stringFrom left 0 ('\\' :: 'u' :: (xs ++ cs)) = .ok (c :: s, rest) := by
  rw [stringFrom, h]
  dsimp only
  rw [stringFrom_skip, hread]
  rfl

end Step

/-- A code that is not the first one of a surrogate pair stands for itself. -/
theorem unicodeEscape_alone {n : Nat} (h : ds.length = 4 ∧ hex4 ds = some n) {tail : List Char}
    (halone : ∀ r m, tail = '\\' :: 'u' :: r → hex4 r = some m →
      (isHighSurrogate n && isLowSurrogate m) = false) :
    unicodeEscape (ds ++ tail) = some (scalar n, 4) := by
  have hdrop : (ds ++ tail).drop 4 = tail := by rw [← h.1, List.drop_left]
  rw [unicodeEscape, hex4_append h.1, h.2]
  dsimp only
  rw [hdrop]
  split
  next r hhigh =>
    split
    next m hm =>
      have hlow := halone r m rfl hm
      rw [hhigh, Bool.true_and] at hlow
      rw [hlow]
      rfl
    next => rfl
  next => rfl

theorem unicodeEscape_pair {n m : Nat} {es : List Char} (h : ds.length = 4 ∧ hex4 ds = some n)
    (h' : es.length = 4 ∧ hex4 es = some m) (hpair : (isHighSurrogate n && isLowSurrogate m) = true)
    (tail : List Char) : unicodeEscape (ds ++ '\\' :: 'u' :: (es ++ tail)) =
      some (Char.ofNat (0x10000 + (n - 0xd800) * 1024 + (m - 0xdc00)), 10) := by
  have hdrop (xs : List Char) : (ds ++ xs).drop 4 = xs := by rw [← h.1, List.drop_left]
  rw [Bool.and_eq_true] at hpair
  simp only [unicodeEscape, hex4_append h.1, h.2, hpair.1, hdrop, hex4_append h'.1, h'.2, hpair.2,
    if_true]

theorem Quoted.inner_cons (a : Atom) (as : Quoted) : inner (a :: as) = a.text ++ inner as :=
  List.flatMap_cons

/-- Behind a code that is not followed by another one there is no code. -/
theorem Quoted.inner_ne_code {as : Quoted}
    (hnot : ∀ ds n h as', as = .code ds n h :: as' → False) (r : List Char) :
    as.inner ++ '"' :: rest ≠ '\\' :: 'u' :: r := by
  rcases as with _ | ⟨⟨c, h⟩ | ⟨e, c, h⟩ | ⟨ds, n, h⟩, as⟩
  · simp [inner]
  · simp [inner_cons, Atom.text, h.2.2]
  · have hne := ne_quote_of_simpleEscape h
    simp [inner_cons, Atom.text, hne]
  · exact (hnot ds n h as rfl).elim

/-- A string is read up to its closing quote. -/
theorem stringFrom_inner (q : Quoted) (left : Nat) (rest : List Char) :
    stringFrom left 0 (q.inner ++ '"' :: rest) = .ok (q.chars, rest) := by
  induction q using Quoted.chars.induct with
  | case1 => rfl
  | case2 c h as ih => exact stringFrom_plain ih h
  | case3 e c h as ih => exact stringFrom_letter ih h
  | case4 ds n h es m h' as hpair ih =>
    have hlength : (ds ++ '\\' :: 'u' :: es).length = 10 := by simp [h.1, h'.1]
    have hescape := unicodeEscape_pair h h' hpair (Quoted.inner as ++ '"' :: rest)
    rw [← hlength, ← List.cons_append, ← List.cons_append, ← List.append_assoc] at hescape
    rw [Quoted.chars, if_pos hpair, Quoted.inner_cons, Quoted.inner_cons]
    simpa [Atom.text] using stringFrom_code ih hescape
  | case5 ds n h es m h' as hpair ih =>
    rw [Quoted.chars, if_neg hpair, Quoted.inner_cons, List.append_assoc]
    refine stringFrom_code ih ?_
    rw [h.1]
    refine unicodeEscape_alone h fun r k hr hk => ?_
    obtain rfl : es ++ (Quoted.inner as ++ '"' :: rest) = r := by
      simpa [Quoted.inner_cons, Atom.text] using hr
    rw [hex4_append h'.1, h'.2] at hk
    obtain rfl := Option.some.inj hk
    exact Bool.eq_false_iff.2 hpair
  | case6 ds n h as hnot ih =>
    have hchars : Quoted.chars (.code ds n h :: as) = scalar n :: Quoted.chars as := by
      rw [Quoted.chars]
      exact hnot
    rw [hchars, Quoted.inner_cons, List.append_assoc]
    refine stringFrom_code ih ?_
    rw [h.1]
    exact unicodeEscape_alone h fun r k hr _ => absurd hr (Quoted.inner_ne_code hnot r)

/-! ### Numbers -/

/-- A number could go on with the character. -/
def continues (c : Char) : Bool := c.isDigit || c == '.' || c == 'e' || c == 'E'

theorem leaves_of_continues (h : Leaves continues rest) :
    Leaves Char.isDigit rest ∧ Leaves (· == '.') rest := by
  cases rest with
  | nil => exact ⟨rfl, rfl⟩
  | cons c rest =>
    rw [leaves_cons] at h ⊢
    simp only [continues, Bool.or_eq_false_iff] at h
    exact ⟨h.1.1.1, leaves_cons.2 h.1.1.2⟩

theorem fraction_of_leaves (h : Leaves (· == '.') rest) : fraction rest = ([], rest) := by
  unfold fraction
  split
  next => exact absurd (leaves_cons.1 h) (by decide)
  next => rfl

theorem fraction_places {places : List Char} (hne : places ≠ [])
    (h : ∀ c ∈ places, c.isDigit = true) (hrest : Leaves Char.isDigit rest) :
    fraction ('.' :: (places ++ rest)) = (places, rest) := by
  rw [fraction, takeWhile_run h hrest, dropWhile_run h hrest]
  exact if_neg (by simpa using hne)

theorem exponent_of_leaves (h : Leaves continues rest) : exponent rest = (none, rest) := by
  cases rest with
  | nil => rfl
  | cons c rest =>
    rw [leaves_cons] at h
    simp only [continues, Bool.or_eq_false_iff] at h
    simp [exponent, h.1.2, h.2]

def isSign (c : Char) : Bool := c == '-' || c == '+'

/-- Behind its letter and its sign, if there is one, an exponent is all the digits. -/
theorem exponent_sign {e : Char} (he : e = 'e' ∨ e = 'E') {sign : List Char}
    (hsign : sign ∈ [[], ['+'], ['-']]) (hcs : sign = [] → Leaves isSign cs) :
    exponent (e :: (sign ++ cs)) =
      if cs.takeWhile Char.isDigit = [] then (none, e :: (sign ++ cs))
      else
        let n : Int := Number.ofDigits 10 (cs.takeWhile Char.isDigit)
        (some (if sign = ['-'] then -n else n), cs.dropWhile Char.isDigit) := by
  have hletter : (e == 'e' || e == 'E') = true := by rcases he with h | h <;> simp [h]
  simp only [List.mem_cons, List.not_mem_nil, or_false] at hsign
  rcases hsign with rfl | rfl | rfl
  · have hfirst : ∀ c tail, cs = c :: tail → c ≠ '-' ∧ c ≠ '+' := by
      rintro c tail rfl
      simpa [isSign] using hcs rfl
    simp only [exponent, hletter, List.nil_append, if_true]
    split
    next r => exact absurd rfl (hfirst _ r rfl).1
    next r => exact absurd rfl (hfirst _ r rfl).2
    next => simp [List.isEmpty_iff]
  · simp [exponent, hletter, List.isEmpty_iff]
  · simp [exponent, hletter, List.isEmpty_iff]

theorem exponent_text (p : Power) (hrest : Leaves Char.isDigit rest) :
    exponent (p.text ++ rest) = (some p.exponent, rest) := by
  have hdigits : Leaves isSign (p.digits ++ rest) := by
    obtain ⟨c, ds, hds⟩ := List.exists_cons_of_ne_nil p.ne_nil
    have hne : ∀ a ∈ ['-', '+'], c ≠ a :=
      forall_ne_of_class (p.areDigits c (by simp [hds])) (by decide)
    rw [hds]
    simpa [isSign] using hne
  have hsigned := exponent_sign p.isLetter p.isSign fun _ => hdigits
  rw [takeWhile_run p.areDigits hrest, dropWhile_run p.areDigits hrest, if_neg p.ne_nil] at hsigned
  rw [Power.text, List.cons_append, List.append_assoc, hsigned, Power.exponent]

namespace Numeral

variable (n : Numeral)

/-- What stands behind the whole digits. -/
def tail : List Char :=
  (if n.places = [] then [] else '.' :: n.places) ++ (n.power.map Power.text).getD []

theorem exponent_tail (hrest : Leaves continues rest) :
    exponent ((n.power.map Power.text).getD [] ++ rest) = (n.power.map Power.exponent, rest) := by
  cases n.power with
  | none => exact exponent_of_leaves hrest
  | some p => exact exponent_text p (leaves_of_continues hrest).1

theorem leaves_power (hrest : Leaves continues rest) :
    Leaves Char.isDigit ((n.power.map Power.text).getD [] ++ rest) ∧
      Leaves (· == '.') ((n.power.map Power.text).getD [] ++ rest) := by
  cases n.power with
  | none => exact leaves_of_continues hrest
  | some p =>
    refine ⟨leaves_cons.2 ?_, leaves_cons.2 ?_⟩
    all_goals rcases p.isLetter with h | h <;> rw [h] <;> decide

theorem fraction_tail (hrest : Leaves continues rest) : fraction (n.tail ++ rest) =
    (n.places, (n.power.map Power.text).getD [] ++ rest) := by
  obtain ⟨hdigit, hpoint⟩ := n.leaves_power hrest
  unfold tail
  split
  next hnil =>
    rw [hnil]
    exact fraction_of_leaves hpoint
  next hne =>
    rw [List.append_assoc]
    exact fraction_places hne n.arePlaces hdigit

theorem leaves_tail (hrest : Leaves continues rest) : Leaves Char.isDigit (n.tail ++ rest) := by
  unfold tail
  split
  next => exact (n.leaves_power hrest).1
  next => exact leaves_cons.2 (by decide)

theorem wholeDigits_body (hrest : Leaves continues rest) :
    wholeDigits (n.body ++ rest) = n.whole := by
  have hbody : n.body ++ rest = n.whole ++ (n.tail ++ rest) := List.append_assoc ..
  rw [hbody]
  unfold wholeDigits
  split
  next ds hzero =>
    obtain ⟨c, cs, hwhole⟩ := List.exists_cons_of_ne_nil n.ne_nil
    rw [hwhole, List.cons_append] at hzero
    have hhead : n.whole.head? = some '0' := by rw [hwhole, (List.cons.inj hzero).1]; rfl
    exact (n.leading hhead).symm
  next => exact takeWhile_run n.areDigits (n.leaves_tail hrest)

variable {n} in
/-- A number is what its digits, its places and its exponent come to. -/
theorem number_of_parts {behind : List Char} (hwhole : wholeDigits cs = n.whole)
    (hplaces : fraction (cs.drop n.whole.length) = (n.places, behind))
    (hpower : exponent behind = (n.power.map Power.exponent, rest)) :
    number n.negative cs = n.value.map (·, rest) := by
  have hempty : n.whole.isEmpty = false := by simpa using n.ne_nil
  unfold number
  rw [hwhole]
  dsimp only
  rw [hempty, hplaces]
  dsimp only
  rw [hpower, value]
  simp only [Bool.false_eq_true, if_false, List.isEmpty_iff, Option.map_eq_none_iff,
    Option.isNone_iff_eq_none]
  split
  next => split <;> rfl
  next => rfl

/-- A number is read as far as it goes. -/
theorem number_body (hrest : Leaves continues rest) :
    number n.negative (n.body ++ rest) = n.value.map (·, rest) := by
  have hdrop : (n.body ++ rest).drop n.whole.length = n.tail ++ rest := by simp [body, tail]
  refine number_of_parts (n.wholeDigits_body hrest) ?_ (n.exponent_tail hrest)
  rw [hdrop, n.fraction_tail hrest]

end Numeral

/-! ### Scalars -/

theorem value_word {w : String} {v : Json} (h : (w, v) ∈ words) (fuel : Nat) (rest : List Char) :
    value (fuel + 1) (w.toList ++ rest) = .ok (v, rest) := by
  simp only [words, List.mem_cons, Prod.mk.injEq, List.not_mem_nil, or_false] at h
  rcases h with ⟨rfl, rfl⟩ | ⟨rfl, rfl⟩ | ⟨rfl, rfl⟩ | ⟨rfl, rfl⟩ | ⟨rfl, rfl⟩ | ⟨rfl, rfl⟩ <;> rfl

/-- No word begins with a digit or a sign in front of one. -/
theorem word?_digit {c : Char} (h : c.isDigit = true) (cs : List Char) :
    word? (c :: cs) = none ∧ word? ('-' :: c :: cs) = none := by
  have hne : ∀ a ∈ ['n', 't', 'f', 'N', 'I', '-'], c ≠ a := forall_ne_of_class h (by decide)
  simp only [List.forall_mem_cons] at hne
  obtain ⟨hn, ht, hf, hN, hI, hminus, -⟩ := hne
  simp [word?, words, afterStart, hn.symm, ht.symm, hf.symm, hN.symm, hI.symm, hminus.symm]

theorem Numeral.exists_body (n : Numeral) : ∃ c cs, n.body = c :: cs ∧ c.isDigit = true := by
  obtain ⟨c, cs, hwhole⟩ := List.exists_cons_of_ne_nil n.ne_nil
  exact ⟨c, cs ++ n.tail, by rw [body, hwhole]; rfl, n.areDigits c (by simp [hwhole])⟩

theorem value_numeral (n : Numeral) (fuel : Nat) (hrest : Leaves continues rest) :
    value (fuel + 1) (n.text ++ rest) = n.value.map (·, rest) := by
  have hread := n.number_body hrest
  obtain ⟨c, cs, hbody, hdigit⟩ := n.exists_body
  obtain ⟨hword, hword'⟩ := word?_digit hdigit (cs ++ rest)
  have hne : ∀ a ∈ ['"', '[', '\x7b', '-'], c ≠ a := forall_ne_of_class hdigit (by decide)
  simp only [List.forall_mem_cons] at hne
  obtain ⟨hquote, hbracket, hbrace, hminus, -⟩ := hne
  rw [hbody] at hread
  rw [← hread, Numeral.text, hbody]
  cases n.negative with
  | true =>
    simp [value, hword']
  | false =>
    simp [value, hword, hquote, hbracket, hbrace, hminus]

theorem value_quoted (q : Quoted) (fuel : Nat) (rest : List Char) :
    value (fuel + 1) (q.text ++ rest) = .ok (.str (String.ofList q.chars), rest) := by
  have htext : q.text ++ rest = '"' :: (q.inner ++ '"' :: rest) := by simp [Quoted.text]
  rw [htext, value, stringFrom_inner]
  rfl

theorem value_scalar (s : Scalar) (fuel : Nat) (hrest : Leaves continues rest) :
    value (fuel + 1) (s.text ++ rest) = s.value.map (·, rest) := by
  cases s with
  | word w v h => exact value_word h fuel rest
  | numeral n => exact value_numeral n fuel hrest
  | quoted q => exact value_quoted q fuel rest

/-! ### Where a phrase begins -/

/-- A phrase may begin with the character. -/
def opens (c : Char) : Bool := !isBlank c && c != ']' && c != '\x7d'

theorem opens_of_isDigit {c : Char} (h : c.isDigit = true) : opens c = true := by
  have hname : isName c = true := by simp [isName, isWord, Char.isAlphanum, h]
  have hne : ∀ a ∈ [']', '\x7d'], c ≠ a := forall_ne_of_class h (by decide)
  simp only [List.forall_mem_cons] at hne
  simp [opens, isBlank_of_isName hname, hne.1, hne.2.1]

theorem Scalar.exists_text (s : Scalar) : ∃ c cs, s.text = c :: cs ∧ opens c = true := by
  cases s with
  | word w v h =>
    simp only [words, List.mem_cons, Prod.mk.injEq, List.not_mem_nil, or_false] at h
    rcases h with ⟨rfl, rfl⟩ | ⟨rfl, rfl⟩ | ⟨rfl, rfl⟩ | ⟨rfl, rfl⟩ | ⟨rfl, rfl⟩ | ⟨rfl, rfl⟩
    all_goals exact ⟨_, _, rfl, by decide⟩
  | numeral n =>
    obtain ⟨c, cs, hbody, hdigit⟩ := n.exists_body
    change ∃ c cs, n.text = c :: cs ∧ _
    unfold Numeral.text
    split
    next => exact ⟨'-', n.body, rfl, by decide⟩
    next => exact ⟨c, cs, hbody, opens_of_isDigit hdigit⟩
  | quoted q => exact ⟨'"', q.inner ++ ['"'], rfl, by decide⟩

theorem Phrase.exists_text (l : Layout) {p : Part} (s : Phrase p) :
    ∃ c cs, s.text l = c :: cs ∧ opens c = true := by
  induction s with
  | scalar s => exact s.exists_text
  | empty k | group k => exact ⟨k.opener, _, rfl, by cases k <;> decide⟩
  | @last k label v after trailing ih | @more k label v after before es ih _ =>
    obtain ⟨c, cs, htext, hc⟩ := ih
    cases k with
    | array => exact ⟨c, _, by rw [text, htext]; rfl, hc⟩
    | object => exact ⟨'"', _, rfl, by decide⟩

theorem isBlank_of_isSpace {c : Char} (h : isSpace c = true) : isBlank c = true := by
  simp only [isSpace, Bool.or_eq_true, beq_iff_eq] at h
  rcases h with ((rfl | rfl) | rfl) | rfl <;> decide

theorem Phrase.leaves_isSpace (l : Layout) {p : Part} (s : Phrase p) (rest : List Char) :
    Leaves isSpace (s.text l ++ rest) := by
  obtain ⟨c, cs, htext, hc⟩ := s.exists_text l
  rw [htext]
  refine leaves_cons.2 (Bool.eq_false_iff.2 fun hspace => ?_)
  simp [opens, isBlank_of_isSpace hspace] at hc

/-! ### Phrases -/

/-- A layout leaves only blanks between the tokens. -/
structure Layout.Spaced (l : Layout) : Prop where
  gap : ∀ g, ∀ c ∈ l.gap g, isSpace c = true
  trailing : ∀ g, ∀ c ∈ l.trailing g, isSpace c = true

theorem skipSpace_append (h : ∀ c ∈ cs, isSpace c = true) (hrest : Leaves isSpace rest) :
    skipSpace (cs ++ rest) = rest := dropWhile_run h hrest

/-- Reading a part of a text. -/
def Part.read : (p : Part) → Nat → List Char → Except ReadError (Front p.Value)
  | value => Json.value
  | entries .array => items
  | entries .object => members

theorem leaves_continues_append (h : ∀ c ∈ cs, isSpace c = true) (hrest : Leaves continues rest) :
    Leaves continues (cs ++ rest) := by
  cases cs with
  | nil => exact hrest
  | cons c cs =>
    have hspace := h c List.mem_cons_self
    simp only [isSpace, Bool.or_eq_true, beq_iff_eq] at hspace
    refine leaves_cons.2 ?_
    rcases hspace with ((rfl | rfl) | rfl) | rfl <;> decide

theorem Kind.isClosing (k : Kind) : continues k.closer = false ∧ isSpace k.closer = false := by
  cases k <;> decide

/-- What follows an entry: the closing bracket, or a comma and further entries. -/
def Kind.goOn (k : Kind) (e : k.Entry) (fuel : Nat) :
    List Char → Except ReadError (Front (List k.Entry))
  | [] => .error (.malformed 0)
  | c :: cs =>
    if c = k.closer then .ok ([e], cs)
    else if c = ',' then
      (Part.read (.entries k) fuel (skipSpace cs)).map fun r => (e :: r.1, r.2)
    else .error (.malformed (cs.length + 1))

namespace Kind

variable (k : Kind) (e : k.Entry) (fuel : Nat)

theorem goOn_closer (cs : List Char) : k.goOn e fuel (k.closer :: cs) = .ok ([e], cs) := if_pos rfl

theorem goOn_comma (cs : List Char) : k.goOn e fuel (',' :: cs) =
    (Part.read (.entries k) fuel (skipSpace cs)).map fun r => (e :: r.1, r.2) := by
  rw [goOn, if_neg (by cases k <;> decide), if_pos rfl]

theorem goOn_other (hcloser : ∀ r, cs = k.closer :: r → False)
    (hcomma : ∀ r, cs = ',' :: r → False) :
    k.goOn e fuel cs = .error (.malformed cs.length) := by
  cases cs with
  | nil => rfl
  | cons c cs =>
    rw [goOn, if_neg fun h => hcloser cs (by rw [h]), if_neg fun h => hcomma cs (by rw [h])]
    rfl

end Kind

section Group

variable {k : Kind}

theorem value_empty (h : skipSpace cs = k.closer :: rest) (fuel : Nat) :
    value (fuel + 1) (k.opener :: cs) = .ok (k.group [], rest) := by
  cases k with
  | array | object =>
    simp only [Kind.opener, value, h]
    rfl

theorem value_group (h : ∀ r, skipSpace cs ≠ k.closer :: r) (fuel : Nat) :
    value (fuel + 1) (k.opener :: cs) =
      (Part.read (.entries k) fuel (skipSpace cs)).map fun r => (k.group r.1, r.2) := by
  cases k with
  | array =>
    simp only [Kind.opener, value, Part.read]
    split
    next r heq => exact absurd heq (h r)
    next => cases items fuel (skipSpace cs) <;> rfl
  | object =>
    simp only [Kind.opener, value, Part.read]
    split
    next r heq => exact absurd heq (h r)
    next => cases members fuel (skipSpace cs) <;> rfl

theorem items_succ (fuel : Nat) (cs : List Char) :
    items (fuel + 1) cs =
      (value fuel cs).bind fun r => Kind.array.goOn r.1 fuel (skipSpace r.2) := by
  simp only [items, bind]
  refine congrArg (Except.bind _) (funext fun r => ?_)
  split
  next heq =>
    rw [heq]
    exact (Kind.goOn_closer .array r.1 fuel _).symm
  next cs heq =>
    rw [heq]
    refine Eq.trans ?_ (Kind.goOn_comma .array r.1 fuel cs).symm
    rw [Part.read]
    cases items fuel (skipSpace cs) <;> rfl
  next hcloser hcomma => exact (Kind.goOn_other .array r.1 fuel hcloser hcomma).symm

theorem members_succ {s behind : List Char}
    (hname : stringFrom (cs.length + 1) 0 cs = .ok (s, rest))
    (hcolon : skipSpace rest = ':' :: behind) (fuel : Nat) :
    members (fuel + 1) ('"' :: cs) = (value fuel (skipSpace behind)).bind fun r =>
      Kind.object.goOn (String.ofList s, r.1) fuel (skipSpace r.2) := by
  simp only [members, bind, hname, Except.bind, hcolon]
  cases value fuel (skipSpace behind) with
  | error e => rfl
  | ok r =>
    dsimp only
    split
    next heq =>
      rw [heq]
      exact (Kind.goOn_closer .object _ fuel _).symm
    next cs heq =>
      rw [heq]
      refine Eq.trans ?_ (Kind.goOn_comma .object _ fuel cs).symm
      rw [Part.read]
      cases members fuel (skipSpace cs) <;> rfl
    next hcloser hcomma => exact (Kind.goOn_other .object _ fuel hcloser hcomma).symm

end Group

section Read

variable {l : Layout} (hl : l.Spaced) {k : Kind}

include hl

theorem spaced_trailing (trailing : Option Gap) :
    ∀ c ∈ (trailing.map l.trailing).getD [], isSpace c = true := by
  cases trailing with
  | none => nofun
  | some g => exact hl.trailing g

theorem read_empty (inside : Gap) (fuel : Nat) (rest : List Char) :
    value (fuel + 1) (k.opener :: (l.gap inside ++ (k.closer :: rest))) = .ok (k.group [], rest) :=
  value_empty (skipSpace_append (hl.gap inside) (leaves_cons.2 k.isClosing.2)) fuel

theorem read_group (before : Gap) (es : Phrase (.entries k)) (fuel : Nat) (rest : List Char) :
    value (fuel + 1) (k.opener :: (l.gap before ++ (es.text l ++ rest))) =
      (Part.read (.entries k) fuel (es.text l ++ rest)).map fun r => (k.group r.1, r.2) := by
  have hskip := skipSpace_append (hl.gap before) (es.leaves_isSpace l rest)
  rw [value_group, hskip]
  intro r hr
  obtain ⟨c, cs, htext, hc⟩ := es.exists_text l
  simp only [opens, Bool.and_eq_true, bne_iff_ne] at hc
  rw [hskip, htext] at hr
  have hcloser : c = k.closer := (List.cons.inj hr).1
  cases k with
  | array => exact hc.1.2 hcloser
  | object => exact hc.2 hcloser

/-- Items and members are read alike, but for the names of the members. -/
theorem read_entry (label : k.Label) (hcs : Leaves isSpace cs) (fuel : Nat) :
    Part.read (.entries k) (fuel + 1) (k.label l label ++ cs) =
      (value fuel cs).bind fun r => k.goOn (k.entry label r.1) fuel (skipSpace r.2) := by
  cases k with
  | array => exact items_succ fuel cs
  | object =>
    have htext : Kind.object.label l label ++ cs = '"' :: (label.name.inner ++
        '"' :: (l.gap label.after ++ (':' :: (l.gap label.before ++ cs)))) := by
      simp [Kind.label, Quoted.text]
    have hcolon := skipSpace_append (hl.gap label.after)
      (leaves_cons.2 (by decide) : Leaves isSpace (':' :: (l.gap label.before ++ cs)))
    have hread := members_succ (stringFrom_inner label.name _ _) hcolon fuel
    rw [skipSpace_append (hl.gap label.before) hcs] at hread
    rw [htext]
    exact hread

end Read

theorem Phrase.exists_fuel {l : Layout} {p : Part} {s : Phrase p} {fuel : Nat}
    (h : 2 * (s.text l).length ≤ fuel) : ∃ f, fuel = f + 1 := by
  obtain ⟨c, cs, htext, -⟩ := s.exists_text l
  rw [htext, List.length_cons] at h
  exact ⟨fuel - 1, by omega⟩

/-- A phrase is read up to its end and comes to what it means. -/
theorem Phrase.read_text {l : Layout} (hl : l.Spaced) {p : Part} (s : Phrase p) {fuel : Nat}
    {rest : List Char} (hfuel : 2 * (s.text l).length ≤ fuel)
    (hrest : p = .value → Leaves continues rest) :
    p.read fuel (s.text l ++ rest) = s.value.map (·, rest) := by
  obtain ⟨f, rfl⟩ := exists_fuel hfuel
  induction s generalizing f rest with
  | scalar s => exact value_scalar s f (hrest rfl)
  | empty k inside =>
    simp only [text, List.cons_append, List.append_assoc]
    exact read_empty hl inside f rest
  | group k before es ih =>
    simp only [text, List.cons_append, List.append_assoc, List.length_cons, List.length_append]
      at hfuel ⊢
    have hes : 2 * (es.text l).length ≤ f := by omega
    obtain ⟨f', rfl⟩ := exists_fuel hes
    refine (read_group hl before es (f' + 1) rest).trans ?_
    rw [ih nofun f' hes, value]
    cases es.value <;> rfl
  | @last k label v after trailing ih =>
    simp only [text, List.cons_append, List.append_assoc, List.length_cons, List.length_append,
      List.length_nil, List.nil_append] at hfuel ⊢
    have hv : 2 * (v.text l).length ≤ f := by omega
    obtain ⟨f', rfl⟩ := exists_fuel hv
    have hspaced := spaced_trailing hl trailing
    have hskip : skipSpace
        (l.gap after ++ ((trailing.map l.trailing).getD [] ++ k.closer :: rest)) =
          k.closer :: rest := by
      rw [← List.append_assoc]
      refine skipSpace_append (fun c hc => ?_) (leaves_cons.2 k.isClosing.2)
      exact (List.mem_append.1 hc).elim (hl.gap after c) (hspaced c)
    have hread : Json.value (f' + 1) (v.text l ++ _) = _ := ih (fun _ =>
      leaves_continues_append (hl.gap after) (leaves_continues_append hspaced
        (leaves_cons.2 k.isClosing.1 : Leaves continues (k.closer :: rest)))) f' hv
    rw [read_entry hl label (v.leaves_isSpace l _), hread, value]
    cases v.value with
    | error e => rfl
    | ok x =>
      dsimp only [Except.map, Except.bind]
      rw [hskip, Kind.goOn_closer]
      rfl
  | @more k label v after before es ihv ihes =>
    simp only [text, List.cons_append, List.append_assoc, List.length_cons, List.length_append]
      at hfuel ⊢
    have hv : 2 * (v.text l).length ≤ f := by omega
    have hes : 2 * (es.text l).length ≤ f := by omega
    obtain ⟨f', rfl⟩ := exists_fuel hv
    have hcomma : skipSpace (l.gap after ++ ',' :: (l.gap before ++ (es.text l ++ rest))) =
        ',' :: (l.gap before ++ (es.text l ++ rest)) :=
      skipSpace_append (hl.gap after) (leaves_cons.2 (by decide))
    have hskip := skipSpace_append (hl.gap before) (es.leaves_isSpace l rest)
    have hread : Json.value (f' + 1) (v.text l ++ _) = _ := ihv (fun _ =>
      leaves_continues_append (hl.gap after) (leaves_cons.2 (by decide) :
        Leaves continues (',' :: (l.gap before ++ (es.text l ++ rest))))) f' hv
    rw [read_entry hl label (v.leaves_isSpace l _), hread, value]
    cases v.value with
    | error e => rfl
    | ok x =>
      dsimp only [Except.map, Except.bind]
      rw [hcomma, Kind.goOn_comma, hskip, ihes nofun f' hes]
      cases es.value <;> rfl

end Coselect.Json
