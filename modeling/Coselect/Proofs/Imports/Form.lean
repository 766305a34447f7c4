import Coselect.Proofs.Imports.Reading

/-! The forms of a statement that a semicolon ends. Each recognizer reads the forms made for it,
whole and as written, and finds nothing in the others, provided that what follows is shut: no quote
on the rest of the line, and neither braces nor an equals sign that a form inside the source could
go on to. -/

namespace Coselect.Imports

open Text

variable {α : Type} {read : List Char → Option (Found α)} {before : Option Char}
  {cs rest tail : List Char} {q : Char} {l : Literal}

inductive Form
  | bare (l : Literal)
  | clause (clause : Clause) (l : Literal)
  | reexportAll (l : Literal)
  | reexportStar (name : Identifier) (l : Literal)
  | reexportNamed (bindings : List Binding) (l : Literal)
  | require (name : Identifier) (l : Literal)
  | dynamic (l : Literal) (notInterpolated : isInterpolated l.source = false)

namespace Form

def keyword : Form → List Char
  | bare _ | clause _ _ | dynamic _ _ => "import".toList
  | reexportAll _ | reexportStar _ _ | reexportNamed _ _ => "export".toList
  | require _ _ => "const".toList

/-- What stands between the keyword and the source. -/
def words : Form → List Char
  | bare _ => " ".toList
  | clause c _ => " ".toList ++ (c.text ++ " from ".toList)
  | reexportAll _ => " *".toList ++ " from ".toList
  | reexportStar n _ => " ".toList ++ (starAs n ++ " from ".toList)
  | reexportNamed bs _ => " ".toList ++ (braces bs ++ " from ".toList)
  | require n _ => " ".toList ++ (n.name ++ " = require(".toList)
  | dynamic _ _ => "(".toList

def literal : Form → Literal
  | bare l | clause _ l | reexportAll l | reexportStar _ l | reexportNamed _ l | require _ l
  | dynamic l _ => l

/-- What stands between the source and the semicolon. -/
def close : Form → List Char
  | require _ _ | dynamic _ _ => ")".toList
  | bare _ | clause _ _ | reexportAll _ | reexportStar _ _ | reexportNamed _ _ => []

/-- The form without its semicolon. -/
def body (f : Form) : List Char := f.keyword ++ (f.words ++ (f.literal.text ++ f.close))

def text (f : Form) : List Char := f.body ++ [';']

def kind : Form → Kind
  | bare _ | clause _ _ | reexportAll _ | reexportStar _ _ | reexportNamed _ _ => .staticImport
  | require _ _ => .dynamicRequire
  | dynamic _ _ => .dynamicImport

def specifiers : Form → List String
  | clause c _ => c.specifiers
  | reexportAll _ => ["*"]
  | reexportStar n _ => (Clause.star n).specifiers
  | reexportNamed bs _ => (Clause.named bs).specifiers
  | bare _ | require _ _ | dynamic _ _ => []

/-- The statement that the form makes behind a text. -/
def statement (f : Form) (before : List Char) : Statement :=
  statementBehind before f.kind f.literal.source f.specifiers

/-- What is read of the form as a static import. -/
def static? : Form → Option Sourced
  | bare l => some ([], l.source)
  | clause c l => some (c.text, l.source)
  | reexportAll _ | reexportStar _ _ | reexportNamed _ _ | require _ _ | dynamic _ _ => none

/-- What is read of the form as a re-export. -/
def reexported? : Form → Option Sourced
  | reexportAll l => some (['*'], l.source)
  | reexportStar n l => some (starAs n, l.source)
  | reexportNamed bs l => some (braces bs, l.source)
  | bare _ | clause _ _ | require _ _ | dynamic _ _ => none

/-- What is read of the form as a required module. -/
def required? : Form → Option (List Char)
  | require _ l => some l.source
  | bare _ | clause _ _ | reexportAll _ | reexportStar _ _ | reexportNamed _ _ | dynamic _ _ => none

/-- What is read of the form as a dynamic import. -/
def called? : Form → Option (List Char)
  | dynamic l _ => some l.source
  | bare _ | clause _ _ | reexportAll _ | reexportStar _ _ | reexportNamed _ _ | require _ _ => none

theorem isName_of_mem_keyword (f : Form) : ∀ c ∈ f.keyword, isName c = true := by
  have hall : ∀ w ∈ keywords, ∀ c ∈ w, isName c = true := by decide
  cases f with
  | bare _ | clause _ _ | dynamic _ _ => exact hall "import".toList (by decide)
  | reexportAll _ | reexportStar _ _ | reexportNamed _ _ => exact hall "export".toList (by decide)
  | require _ _ => exact hall "const".toList (by decide)

/-- No keyword stands between the keyword of a form and its source. -/
theorem silent_words (f : Form) : Silent keywordAt before f.words rest := by
  have hblank : ∀ {before rest}, Silent keywordAt before " ".toList rest :=
    silent_of_drop [] (by decide) (by decide)
  have hfrom : ∀ {before rest}, Silent keywordAt before " from ".toList rest :=
    silent_of_drop " from".toList (by decide) (by decide)
  have hleaves : ∀ cs, Leaves isName (" from ".toList ++ cs) := fun _ => leaves_cons.2 (by decide)
  cases f with
  | bare l => exact hblank
  | clause c l =>
    rw [words, silent_append, silent_append]
    exact ⟨hblank, c.silent (hleaves _), hfrom⟩
  | reexportAll l =>
    rw [words, silent_append]
    exact ⟨silent_of_drop [' '] (by decide) (by decide), hfrom⟩
  | reexportStar n l =>
    rw [words, silent_append, silent_append]
    exact ⟨hblank, silent_starAs n (hleaves _), hfrom⟩
  | reexportNamed bs l =>
    rw [words, silent_append, silent_append]
    exact ⟨hblank, silent_braces bs, hfrom⟩
  | require n l =>
    have hequals : Leaves isName (" = require(".toList ++ rest) := leaves_cons.2 (by decide)
    rw [words, silent_append, silent_append]
    exact ⟨hblank, n.silent hequals,
      silent_of_drop " = require".toList (by decide) (by decide)⟩
  | dynamic l _ => exact silent_of_drop [] (by decide) (by decide)

end Form

/-- What follows a source lets no form that begins in the source go on. -/
structure Shut (q : Char) (tail : List Char) : Prop where
  quoteFree : QuoteFree tail
  braceShut : BraceShut tail
  unbound : Unbound (q :: tail)

/-- A recognizer that reads one part of the forms, whole, and nothing else. -/
structure Reads (read : List Char → Option (Found α)) (part : Form → Option α) : Prop where
  keyword : ∀ cs, keywordAt cs = none → read cs = none
  inside : ∀ {q tail}, (q = '"' ∨ q = '\'') → Shut q tail → NoneIn read q tail
  whole : ∀ (f : Form) (rest : List Char), Shut f.literal.quote (f.close ++ rest) →
    read (f.body ++ rest) = (part f).map (⟨·, f.body.length⟩)

theorem bare_body (l : Literal) : (Form.bare l).body = "import ".toList ++ l.text := by
  change "import".toList ++ (" ".toList ++ (l.text ++ [])) = _
  simp

theorem clause_body (c : Clause) (l : Literal) : (Form.clause c l).body = c.importText l := by
  change "import".toList ++ (" ".toList ++ (c.text ++ " from ".toList) ++ (l.text ++ [])) = _
  rw [c.importText_eq]
  simp

theorem reexportAll_body (l : Literal) :
    (Form.reexportAll l).body = "export *".toList ++ (" from ".toList ++ l.text) := by
  change "export".toList ++ (" *".toList ++ " from ".toList ++ (l.text ++ [])) = _
  simp

theorem reexportStar_body (n : Identifier) (l : Literal) :
    (Form.reexportStar n l).body =
      "export ".toList ++ (starAs n ++ (" from ".toList ++ l.text)) := by
  change "export".toList ++ (" ".toList ++ (starAs n ++ " from ".toList) ++ (l.text ++ [])) = _
  simp

theorem reexportNamed_body (bs : List Binding) (l : Literal) :
    (Form.reexportNamed bs l).body =
      "export ".toList ++ (braces bs ++ (" from ".toList ++ l.text)) := by
  change "export".toList ++ (" ".toList ++ (braces bs ++ " from ".toList) ++ (l.text ++ [])) = _
  simp

theorem require_body (n : Identifier) (l : Literal) :
    (Form.require n l).body =
      "const ".toList ++ (n.name ++ (" = require(".toList ++ (l.text ++ ")".toList))) := by
  change "const".toList ++ (" ".toList ++ (n.name ++ " = require(".toList) ++
    (l.text ++ ")".toList)) = _
  simp

theorem dynamic_body (l : Literal) (h : isInterpolated l.source = false) :
    (Form.dynamic l h).body = "import(".toList ++ (l.text ++ ")".toList) := by
  change "import".toList ++ ("(".toList ++ (l.text ++ ")".toList)) = _
  simp

theorem reads_staticImport? : Reads staticImport? Form.static? where
  keyword _ := staticImport?_of_keywordAt
  inside hq hshut := staticImport?_noneIn hq hshut.quoteFree
  whole f rest _ := by
    cases f with
    | bare l =>
      rw [bare_body, List.append_assoc, staticImport?_bare]
      simp [Form.static?]
      omega
    | clause c l =>
      rw [clause_body, c.staticImport?_importText]
      rfl
    | dynamic l h =>
      have hleaves : Leaves isBlank ("(".toList ++ (l.text ++ ")".toList ++ rest)) :=
        leaves_cons.2 (by decide)
      rw [dynamic_body, show "import(".toList = "import".toList ++ "(".toList from rfl,
        List.append_assoc, List.append_assoc, staticImport?, behind_append,
        behindBlanks_one_of_leaves hleaves]
      rfl
    | reexportAll l | reexportStar n l | reexportNamed bs l | require n l =>
      exact behind_eq_none fun r hr => by cases hr

theorem reads_reexport? : Reads reexport? Form.reexported? where
  keyword _ := reexport?_of_keywordAt
  inside hq hshut := reexport?_noneIn hq hshut.quoteFree hshut.braceShut
  whole f rest _ := by
    cases f with
    | reexportAll l =>
      rw [reexportAll_body, List.append_assoc, List.append_assoc, reexport?_all]
      simp [Form.reexported?]
      omega
    | reexportStar n l =>
      rw [reexportStar_body, List.append_assoc, List.append_assoc, List.append_assoc,
        reexport?_star]
      simp [Form.reexported?]
      omega
    | reexportNamed bs l =>
      rw [reexportNamed_body, List.append_assoc, List.append_assoc, List.append_assoc,
        reexport?_braces]
      simp [Form.reexported?]
      omega
    | bare l | clause c l | require n l | dynamic l h =>
      exact behind_eq_none fun r hr => by cases hr

theorem reads_dynamicImport? : Reads dynamicImport? Form.called? where
  keyword _ := dynamicImport?_of_keywordAt
  inside hq hshut := dynamicImport?_noneIn hq hshut.quoteFree
  whole f rest _ := by
    cases f with
    | bare l =>
      have hopen : (l.text ++ rest).head? ≠ some '(' := by
        rcases l.isQuote with h | h <;> simp [Literal.text, h]
      rw [bare_body, List.append_assoc, dynamicImport?_import (leaves_text l) hopen]
      rfl
    | clause c l =>
      rw [clause_body, c.dynamicImport?_importText]
      rfl
    | dynamic l h =>
      rw [dynamic_body, List.append_assoc, List.append_assoc, dynamicImport?_text]
      simp [Form.called?]
      omega
    | reexportAll l | reexportStar n l | reexportNamed bs l | require n l =>
      exact behind_eq_none fun r hr => by cases hr

theorem reads_require? : Reads require? Form.required? where
  keyword _ := require?_of_keywordAt
  inside hq hshut := require?_noneIn hq hshut.quoteFree hshut.unbound
  whole f rest hshut := by
    cases f with
    | require n l =>
      have hleaves : Leaves isBlank
          (n.name ++ (" = require(".toList ++ (l.text ++ (")".toList ++ rest)))) :=
        (leaves_append_of_ne_nil n.ne_nil).2 n.tight.starts
      rw [require_body]
      simp only [List.append_assoc]
      rw [require?_const hleaves, bindingCall?_name]
      simp [Form.required?, Found.longer]
      omega
    | bare l =>
      rw [bare_body, List.append_assoc]
      exact require?_import (leaves_text l) (hshut.unbound.text hshut.quoteFree).outside
    | clause c l =>
      have hleaves : Leaves isBlank (c.text ++ (" from ".toList ++ (l.text ++ rest))) :=
        (leaves_append_of_ne_nil c.tight.ne_nil).2 c.tight.starts
      have hsource : bindingCall? .outside (l.text ++ rest) = none :=
        (hshut.unbound.text hshut.quoteFree).outside
      have hfrom : bindingCall? .outside (" from ".toList ++ (l.text ++ rest)) = none := by
        rw [bindingCall?_append (by decide), hsource]
        rfl
      rw [clause_body, c.importText_eq, List.append_assoc, List.append_assoc, List.append_assoc]
      exact require?_import hleaves (bindingCall?_clause c hfrom)
    | dynamic l h =>
      have hleaves : Leaves isBlank ("(".toList ++ (l.text ++ ")".toList ++ rest)) :=
        leaves_cons.2 (by decide)
      rw [dynamic_body, show "import(".toList = "import".toList ++ "(".toList from rfl,
        List.append_assoc, List.append_assoc]
      refine List.findSome?_eq_none_iff.2 fun w hw => behind_eq_none fun r hr => ?_
      simp only [List.mem_cons, List.not_mem_nil, or_false] at hw
      rcases hw with rfl | rfl | rfl | rfl
      · cases hr
      · cases hr
      · cases hr
      · rw [← List.append_cancel_left hr]
        exact behindBlanks_one_of_leaves hleaves
    | reexportAll l | reexportStar n l | reexportNamed bs l =>
      refine List.findSome?_eq_none_iff.2 fun w hw => behind_eq_none fun r hr => ?_
      simp only [List.mem_cons, List.not_mem_nil, or_false] at hw
      rcases hw with rfl | rfl | rfl | rfl <;> cases hr

theorem Form.body_ne_nil (f : Form) : f.body ≠ [] := by
  have hquote : f.literal.text ≠ [] := by simp [Literal.text]
  simp [body, hquote]

theorem Form.text_eq (f : Form) :
    f.text = f.keyword ++ (f.words ++ f.literal.text) ++ (f.close ++ [';']) := by
  simp [text, body]

theorem Form.silent_close (f : Form) : Silent keywordAt before (f.close ++ [';']) rest := by
  have hparen : ∀ {before}, Silent keywordAt before (")".toList ++ [';']) rest :=
    silent_of_drop _ (by decide) (by decide)
  have hsemi : ∀ {before}, Silent keywordAt before ([] ++ [';']) rest :=
    silent_of_drop _ (by decide) (by decide)
  cases f with
  | require _ _ | dynamic _ _ => exact hparen
  | bare _ | clause _ _ | reexportAll _ | reexportStar _ _ | reexportNamed _ _ => exact hsemi

/-- A scan takes a form as one, if it reads it, and goes on behind its semicolon. -/
theorem Reads.scanFrom_text {part : Form → Option α} (h : Reads read part) {f : Form} {offset : Nat}
    (hbefore : mayPrecede before = true) (hshut : Shut f.literal.quote (f.close ++ ';' :: rest)) :
    scanFrom read offset before 0 (f.text ++ rest) =
      (part f).toList.map (offset, ·) ++
        scanFrom read (offset + f.text.length) (some ';') 0 rest := by
  have hread := h.whole f (';' :: rest) hshut
  have hlast : lastOr before f.text = some ';' := by
    rw [Form.text, lastOr_append]
    rfl
  cases hpart : part f with
  | some x =>
    rw [hpart] at hread
    have hsemi : Silent read (lastOr before f.body) [';'] rest := by
      refine Silent.of_keywordAt h.keyword ?_
      rw [silent_cons_of_not_isName (by decide)]
      exact silent_nil
    have hend := scanFrom_silent (offset + f.body.length) hsemi
    rw [List.singleton_append, ← lastOr_append] at hend
    rw [Form.text, List.append_assoc, List.singleton_append,
      scanFrom_read offset hbefore f.body_ne_nil hread, hend, ← Form.text, hlast, Form.text,
      List.length_append, Nat.add_assoc]
    rfl
  | none =>
    rw [hpart, Form.body] at hread
    simp only [List.append_assoc, Option.map_none] at hread
    have hform : Silent read before (f.keyword ++ (f.words ++ f.literal.text))
        (f.close ++ ';' :: rest) :=
      silent_form h.keyword f.isName_of_mem_keyword f.silent_words hread
        (h.inside f.literal.isQuote hshut)
    have hsilent : Silent read before f.text rest := by
      rw [f.text_eq, silent_append, List.append_assoc f.close]
      exact ⟨hform, Silent.of_keywordAt h.keyword f.silent_close⟩
    rw [scanFrom_silent offset hsilent, hlast]
    rfl

/-- Neither a brace nor a bracket. -/
def isSmooth (c : Char) : Bool := !(['\x7b', '\x7d', '[', ']'].contains c)

theorem isSmooth_of_isPart {c : Char} (h : isPart c = true) : isSmooth c = true := by
  have hne : ∀ d ∈ ['\x7b', '\x7d', '[', ']'], c ≠ d := forall_ne_of_class h (by decide)
  simpa [isSmooth] using hne

theorem isSmooth_of_isBlank {c : Char} (h : isBlank c = true) : isSmooth c = true := by
  have hne : ∀ d ∈ ['\x7b', '\x7d', '[', ']'], c ≠ d := forall_ne_of_class h (by decide)
  simpa [isSmooth] using hne

/-- A form has no braces in front of its source, or it opens them there before it closes any. -/
theorem Form.head_eq (f : Form) :
    (∀ c ∈ f.keyword ++ f.words, isSmooth c = true) ∨
      ∃ xs ys, f.keyword ++ f.words = xs ++ '\x7b' :: ys ∧ (∀ c ∈ xs, isSmooth c = true) ∧
        ∀ c ∈ ys, c ≠ '[' ∧ c ≠ ']' := by
  have hkeyword : ∀ c ∈ f.keyword, isSmooth c = true := fun c hc =>
    isSmooth_of_isPart (by simp [isPart, f.isName_of_mem_keyword c hc])
  have hfrom : ∀ c ∈ " from ".toList, isSmooth c = true := by decide
  have hblank : ∀ c ∈ " ".toList, isSmooth c = true := by decide
  have hys : ∀ bs : List Binding,
      ∀ c ∈ listed bs ++ ('\x7d' :: " from ".toList), c ≠ '[' ∧ c ≠ ']' := by
    intro bs
    refine List.forall_mem_append.2 ⟨fun c hc => ?_, by decide⟩
    have hpart := isPart_of_mem_listed bs c hc
    exact ⟨ne_of_class hpart (by decide), ne_of_class hpart (by decide)⟩
  cases f with
  | bare l =>
    exact .inl (List.forall_mem_append.2 ⟨hkeyword, hblank⟩)
  | clause c l =>
    have hlead : ∀ d ∈ c.lead, isSmooth d = true := fun d hd =>
      isSmooth_of_isPart (c.isPart_of_mem_lead d hd)
    rcases c.braced_eq with hnil | ⟨bs, hbs⟩
    · refine .inl ?_
      simp only [words, c.text_eq, hnil, List.append_nil, List.forall_mem_append]
      exact ⟨hkeyword, hblank, hlead, hfrom⟩
    · refine .inr ⟨"import".toList ++ (" ".toList ++ c.lead),
        listed bs ++ '\x7d' :: " from ".toList, ?_, ?_, hys bs⟩
      · change "import".toList ++ (" ".toList ++ (c.text ++ " from ".toList)) = _
        simp [c.text_eq, hbs, braces]
      · simp only [List.forall_mem_append]
        exact ⟨hkeyword, hblank, hlead⟩
  | reexportAll l =>
    have hstar : ∀ d ∈ " *".toList ++ " from ".toList, isSmooth d = true := by decide
    exact .inl (List.forall_mem_append.2 ⟨hkeyword, hstar⟩)
  | reexportStar n l =>
    have hstar : ∀ d ∈ starAs n, isSmooth d = true := fun d hd =>
      isSmooth_of_isPart (isPart_of_mem_starAs n d hd)
    refine .inl ?_
    simp only [words, List.forall_mem_append]
    exact ⟨hkeyword, hblank, hstar, hfrom⟩
  | reexportNamed bs l =>
    refine .inr
      ⟨"export".toList ++ " ".toList, listed bs ++ '\x7d' :: " from ".toList, ?_, ?_, hys bs⟩
    · change "export".toList ++ (" ".toList ++ (braces bs ++ " from ".toList)) = _
      simp [braces]
    · exact List.forall_mem_append.2 ⟨hkeyword, hblank⟩
  | require n l =>
    have hname : ∀ d ∈ n.name, isSmooth d = true := fun d hd =>
      isSmooth_of_isPart (n.isPart_of_mem d hd)
    refine .inl ?_
    simp only [words, List.forall_mem_append]
    exact ⟨hkeyword, hblank, hname, by decide⟩
  | dynamic l _ =>
    have hopen : ∀ d ∈ "(".toList, isSmooth d = true := by decide
    exact .inl (List.forall_mem_append.2 ⟨hkeyword, hopen⟩)

/-- Nothing that a form begun before goes on to: in the text no brace closes in front of a source
before one opens, and no pair of braces or brackets is left towards a call. -/
structure Closed (cs : List Char) : Prop where
  braceShut : BraceShut cs
  inBraces : bindingCall? (.inside '\x7b' '\x7d') cs = none
  inBrackets : bindingCall? (.inside '[' ']') cs = none

theorem closed_nil : Closed [] := ⟨by simp [BraceShut], rfl, rfl⟩

theorem BraceShut.append {xs : List Char} (h : BraceShut rest) (hxs : '\x7d' ∉ xs) :
    BraceShut (xs ++ rest) := by
  intro u v heq hopen hclose
  obtain ⟨u, rfl, rfl⟩ := exists_of_append_eq hxs heq.symm
  exact h u v rfl (fun hmem => hopen (List.mem_append_right _ hmem))
    (fun hmem => hclose (List.mem_append_right _ hmem))

theorem braceShut_of_open {xs : List Char} (hxs : '\x7d' ∉ xs) :
    BraceShut (xs ++ '\x7b' :: rest) := by
  intro u v heq hopen _
  have hxs' : '\x7d' ∉ xs ++ ['\x7b'] := by simp [hxs]
  rw [show xs ++ '\x7b' :: rest = xs ++ ['\x7b'] ++ rest by simp] at heq
  obtain ⟨u, rfl, -⟩ := exists_of_append_eq hxs' heq.symm
  simp at hopen

theorem Closed.append {xs : List Char} (h : Closed rest) (hxs : ∀ c ∈ xs, isSmooth c = true) :
    Closed (xs ++ rest) := by
  have hpasses : ∀ o e, isSmooth o = false → isSmooth e = false →
      ∀ c ∈ xs, (Nesting.inside o e).passes c = true := by
    intro o e ho he c hc
    simpa [Nesting.passes] using ⟨ne_of_class (hxs c hc) ho, ne_of_class (hxs c hc) he⟩
  refine ⟨h.braceShut.append fun hmem => absurd (hxs _ hmem) (by decide), ?_, ?_⟩
  · rw [bindingCall?_append (hpasses _ _ (by decide) (by decide)), h.inBraces]
    rfl
  · rw [bindingCall?_append (hpasses _ _ (by decide) (by decide)), h.inBrackets]
    rfl

theorem QuoteFree.append {xs : List Char} (h : QuoteFree rest)
    (hxs : ∀ c ∈ xs, c ≠ '\n' ∧ c ≠ '"' ∧ c ≠ '\'') : QuoteFree (xs ++ rest) := by
  have hline : ∀ c ∈ xs, (c != '\n') = true := fun c hc => by simpa using (hxs c hc).1
  intro c hc
  rw [List.takeWhile_append_of_pos hline, List.mem_append] at hc
  rcases hc with hc | hc
  · exact (hxs c hc).2
  · exact h c hc

/-- The end of a form is shut when nothing in the text behind it goes on. -/
theorem Closed.shut (h : Closed rest) (hline : QuoteFree rest) (f : Form) :
    Shut f.literal.quote (f.close ++ ';' :: rest) := by
  have hclose : f.close = [] ∨ f.close = ")".toList := by cases f <;> simp [Form.close]
  have hchars : ∀ c ∈ f.close ++ [';'], c ≠ '\n' ∧ c ≠ '"' ∧ c ≠ '\'' := by
    rcases hclose with h | h <;> rw [h] <;> decide
  have hsmooth : ∀ c ∈ f.literal.quote :: (f.close ++ [';']), isSmooth c = true := by
    rcases f.literal.isQuote with hq | hq <;> rcases hclose with h | h <;> rw [hq, h] <;> decide
  have houtside : ∀ c ∈ f.literal.quote :: f.close, Nesting.outside.passes c = true := by
    rcases f.literal.isQuote with hq | hq <;> rcases hclose with h | h <;> rw [hq, h] <;> decide
  have htail : f.close ++ ';' :: rest = f.close ++ [';'] ++ rest := by simp
  have hclosed := h.append hsmooth
  refine ⟨?_, ?_, ?_, ?_, ?_⟩
  · rw [htail]
    exact hline.append hchars
  · rw [htail]
    exact h.braceShut.append fun hmem =>
      absurd (hsmooth _ (List.mem_cons_of_mem _ hmem)) (by decide)
  · rw [← List.cons_append, bindingCall?_append houtside]
    rfl
  · rw [htail]
    exact hclosed.inBraces
  · rw [htail]
    exact hclosed.inBrackets

/-- A form in front of such a text keeps it so. -/
theorem Closed.text (h : Closed rest) (hline : QuoteFree rest) (f : Form) :
    Closed (f.text ++ rest) := by
  have hshut := h.shut hline f
  have hunbound := hshut.unbound.text hshut.quoteFree
  have hsource : Closed (f.literal.text ++ (f.close ++ ';' :: rest)) := by
    refine ⟨?_, hunbound.inBraces, hunbound.inBrackets⟩
    have hquote : '\x7d' ∉ [f.literal.quote] := by
      rcases f.literal.isQuote with hq | hq <;> rw [hq] <;> decide
    have hin := hshut.braceShut.within f.literal.isQuote hshut.quoteFree f.literal.unquoted
    simpa [Literal.text] using hin.append hquote
  have htext : f.text ++ rest =
      f.keyword ++ f.words ++ (f.literal.text ++ (f.close ++ ';' :: rest)) := by
    simp [f.text_eq]
  rw [htext]
  rcases f.head_eq with hhead | ⟨xs, ys, hhead, hxs, hys⟩
  · exact hsource.append hhead
  · rw [hhead, List.append_assoc, List.cons_append]
    have hbraces : ∀ c ∈ xs, (Nesting.inside '\x7b' '\x7d').passes c = true := by
      intro c hc
      simpa [Nesting.passes] using
        ⟨ne_of_class (hxs c hc) (by decide), ne_of_class (hxs c hc) (by decide)⟩
    have hbrackets : ∀ c ∈ xs ++ '\x7b' :: ys, (Nesting.inside '[' ']').passes c = true := by
      refine List.forall_mem_append.2
        ⟨fun c hc => ?_, List.forall_mem_cons.2 ⟨by decide, fun c hc => ?_⟩⟩
      · simpa [Nesting.passes] using
          ⟨ne_of_class (hxs c hc) (by decide), ne_of_class (hxs c hc) (by decide)⟩
      · simpa [Nesting.passes] using hys c hc
    refine ⟨braceShut_of_open fun hmem => absurd (hxs _ hmem) (by decide), ?_, ?_⟩
    · rw [bindingCall?_append hbraces]
      rfl
    · rw [← List.cons_append, ← List.append_assoc, bindingCall?_append hbrackets,
        hsource.inBrackets]
      rfl

end Coselect.Imports
