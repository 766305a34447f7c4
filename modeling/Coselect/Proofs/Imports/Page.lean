import Coselect.Proofs.Imports.Comments
import Coselect.Proofs.Imports.Extract
import Coselect.Proofs.Imports.Form

/-! Pages: statements that each begin on a line of their own, with blanks and comments of any text
before, between and behind them. Of a page exactly its statements are extracted, in order, each with
its kind, source and names, on its line and at the offset of its keyword. -/

namespace Coselect.Imports

open Text

variable {α : Type} {read : List Char → Option (Found α)} {part : Form → Option α} {fresh : Bool}
  {before seen cs rest : List Char}

/-- A blank or a comment; a line comment with the end of its line. -/
inductive Piece
  | blank (c : Char) (isBlank_c : isBlank c = true)
  | line (text : List Char) (oneLine : '\n' ∉ text)
  | block (text : List Char) (notClosed : ¬ "*/".toList <:+: text)

namespace Piece

def text : Piece → List Char
  | blank c _ => [c]
  | line t _ => "//".toList ++ (t ++ ['\n'])
  | block t _ => "/*".toList ++ (t ++ "*/".toList)

/-- What blanking leaves of the piece. -/
def blanked : Piece → List Char
  | blank c _ => [c]
  | line t _ => ("//".toList ++ (t ++ ['\n'])).map blankChar
  | block t _ => ("/*".toList ++ (t ++ "*/".toList)).map blankChar

def breaksLine (p : Piece) : Bool := p.text.contains '\n'

end Piece

/-- A page, or the rest of one. A statement stands only where the line is fresh: at the start of the
page, or behind the end of the line of the statement before it. -/
inductive Page : Bool → Type
  | finish {fresh : Bool} : Page fresh
  | comment {fresh : Bool} (text : List Char) (oneLine : '\n' ∉ text) : Page fresh
  | piece {fresh : Bool} (p : Piece) (rest : Page (fresh || p.breaksLine)) : Page fresh
  | statement (f : Form) (rest : Page false) : Page true

namespace Page

def text : {fresh : Bool} → Page fresh → List Char
  | _, finish => []
  | _, comment t _ => "//".toList ++ t
  | _, piece p rest => p.text ++ rest.text
  | _, statement f rest => f.text ++ rest.text

/-- The page with its comments blanked. -/
def code : {fresh : Bool} → Page fresh → List Char
  | _, finish => []
  | _, comment t _ => ("//".toList ++ t).map blankChar
  | _, piece p rest => p.blanked ++ rest.code
  | _, statement f rest => f.text ++ rest.code

/-- The statements of the page behind a text. -/
def statementsBehind : {fresh : Bool} → List Char → Page fresh → List Statement
  | _, _, finish | _, _, comment _ _ => []
  | _, before, piece p rest => rest.statementsBehind (before ++ p.text)
  | _, before, statement f rest => f.statement before :: rest.statementsBehind (before ++ f.text)

def statements (page : Page fresh) : List Statement := page.statementsBehind []

/-- A part of every form that has it, with the offset of the form. -/
def found (part : Form → Option α) : {fresh : Bool} → Nat → Page fresh → List (Nat × α)
  | _, _, finish | _, _, comment _ _ => []
  | _, offset, piece p rest => rest.found part (offset + p.text.length)
  | _, offset, statement f rest =>
    (part f).toList.map (offset, ·) ++ rest.found part (offset + f.text.length)

end Page

/-- Blanking takes nothing of a form. -/
theorem Form.blankFrom_text (f : Form) :
    blankFrom .code (f.text ++ rest) = f.text ++ blankFrom .code rest := by
  have hkeyword : ∀ c ∈ f.keyword, isBare c = true := fun c hc =>
    isBare_of_isPart (by simp [isPart, f.isName_of_mem_keyword c hc])
  have hblank : ∀ c ∈ " ".toList, isBare c = true := by decide
  have hfrom : ∀ c ∈ " from ".toList, isBare c = true := by decide
  have hwords : ∀ c ∈ f.words, isBare c = true := by
    cases f with
    | bare l => exact hblank
    | clause c l =>
      simp only [words, List.forall_mem_append]
      exact ⟨hblank, c.isBare_of_mem, hfrom⟩
    | reexportAll l =>
      have hstar : ∀ c ∈ " *".toList ++ " from ".toList, isBare c = true := by decide
      exact hstar
    | reexportStar n l =>
      simp only [words, List.forall_mem_append]
      exact ⟨hblank, (Clause.star n).isBare_of_mem, hfrom⟩
    | reexportNamed bs l =>
      simp only [words, List.forall_mem_append]
      exact ⟨hblank, (Clause.named bs).isBare_of_mem, hfrom⟩
    | require n l =>
      have hrequire : ∀ c ∈ " = require(".toList, isBare c = true := by decide
      simp only [words, List.forall_mem_append]
      exact ⟨hblank, (Clause.default n).isBare_of_mem, hrequire⟩
    | dynamic l _ =>
      have hopen : ∀ c ∈ "(".toList, isBare c = true := by decide
      exact hopen
  have hclose : ∀ c ∈ f.close ++ [';'], isBare c = true := by
    have hend : f.close = [] ∨ f.close = ")".toList := by cases f <;> simp [close]
    rcases hend with h | h <;> rw [h] <;> decide
  rw [f.text_eq, List.append_assoc, List.append_assoc, List.append_assoc, blankFrom_bare hkeyword,
    blankFrom_bare hwords, Imports.blankFrom_text, blankFrom_bare hclose]
  simp only [List.append_assoc]

theorem Piece.blankFrom_text (p : Piece) :
    blankFrom .code (p.text ++ rest) = p.blanked ++ blankFrom .code rest := by
  cases p with
  | blank c hc =>
    have hbare : ∀ d ∈ [c], isBare d = true := by simpa using isBare_of_isBlank hc
    exact blankFrom_bare hbare
  | line t ht =>
    have hline := blankFrom_lineComment ('\n' :: rest) ht
    have hfeed : blankFrom .line ('\n' :: rest) = '\n' :: blankFrom .code rest := rfl
    rw [hfeed] at hline
    simpa [text, blanked, blankChar] using hline
  | block t ht =>
    have hblock := blankFrom_blockComment rest ht
    simpa [text, blanked] using hblock

theorem Page.blankComments_text (page : Page fresh) : blankComments page.text = page.code := by
  unfold blankComments
  induction page with
  | finish => rfl
  | comment t ht =>
    have hline := blankFrom_lineComment [] ht
    simpa [text, code, blankFrom] using hline
  | piece p rest ih => rw [text, p.blankFrom_text, ih, code]
  | statement f rest ih => rw [text, f.blankFrom_text, ih, code]

theorem isBlank_of_mem_map_blankChar (cs : List Char) :
    ∀ c ∈ cs.map blankChar, isBlank c = true := by
  intro c hc
  obtain ⟨d, -, rfl⟩ := List.mem_map.1 hc
  exact isBlank_blankChar d

namespace Piece

variable (p : Piece)

theorem isBlank_of_mem : ∀ c ∈ p.blanked, isBlank c = true := by
  cases p with
  | blank c hc => simpa [blanked] using hc
  | line t _ | block t _ => exact isBlank_of_mem_map_blankChar _

theorem length_blanked : p.blanked.length = p.text.length := by
  cases p with
  | blank c _ => rfl
  | line t _ | block t _ => exact List.length_map _

theorem count_blanked : p.blanked.count '\n' = p.text.count '\n' := by
  cases p with
  | blank c _ => rfl
  | line t _ | block t _ => exact count_map_blankChar _

theorem mem_blanked_of_breaksLine (h : p.breaksLine = true) : '\n' ∈ p.blanked := by
  rw [← List.count_pos_iff, p.count_blanked, List.count_pos_iff]
  simpa [breaksLine] using h

end Piece

theorem isQuote_free_of_isBlank {c : Char} (h : isBlank c = true) : c ≠ '"' ∧ c ≠ '\'' :=
  ⟨ne_of_class h (by decide), ne_of_class h (by decide)⟩

/-- Blanks that end the line, or that a text without quotes on its first line follows. -/
theorem quoteFree_append_of_isBlank (hcs : ∀ c ∈ cs, isBlank c = true)
    (h : '\n' ∈ cs ∨ QuoteFree rest) : QuoteFree (cs ++ rest) := by
  by_cases hfeed : '\n' ∈ cs
  · obtain ⟨u, v, rfl, hu⟩ := List.eq_append_cons_of_mem hfeed
    have hnil : QuoteFree ('\n' :: (v ++ rest)) := by simp [QuoteFree]
    have happend : QuoteFree (u ++ '\n' :: (v ++ rest)) := hnil.append fun c hc =>
      ⟨ne_of_mem_of_not_mem hc hu, isQuote_free_of_isBlank (hcs c (by simp [hc]))⟩
    simpa using happend
  · exact (h.resolve_left hfeed).append fun c hc =>
      ⟨ne_of_mem_of_not_mem hc hfeed, isQuote_free_of_isBlank (hcs c hc)⟩

namespace Page

/-- Until the line is fresh again no quote stands on it. -/
theorem quoteFree (page : Page fresh) (h : fresh = false) : QuoteFree page.code := by
  induction page with
  | finish => simp [code, QuoteFree]
  | comment t _ =>
    have hnil : QuoteFree [] := by simp [QuoteFree]
    have hcomment :=
      quoteFree_append_of_isBlank (isBlank_of_mem_map_blankChar ("//".toList ++ t)) (.inr hnil)
    rwa [List.append_nil] at hcomment
  | piece p rest ih =>
    refine quoteFree_append_of_isBlank p.isBlank_of_mem ?_
    by_cases hbreaks : p.breaksLine = true
    · exact .inl (p.mem_blanked_of_breaksLine hbreaks)
    · exact .inr (ih (by simp [h, hbreaks]))
  | statement f rest _ => contradiction

/-- Nothing that begins in front of a page goes on in it. -/
theorem closed (page : Page fresh) : Closed page.code := by
  induction page with
  | finish => exact closed_nil
  | comment t _ =>
    have hcomment := closed_nil.append fun c hc =>
      isSmooth_of_isBlank (isBlank_of_mem_map_blankChar ("//".toList ++ t) c hc)
    rwa [List.append_nil] at hcomment
  | piece p rest ih => exact ih.append fun c hc => isSmooth_of_isBlank (p.isBlank_of_mem c hc)
  | statement f rest ih => exact ih.text (rest.quoteFree rfl) f

end Page

theorem mayPrecede_of_isBlank {c : Char} (h : isBlank c = true) : mayPrecede (some c) = true := by
  have hpoint : c ≠ '.' := ne_of_class h (by decide)
  simp [mayPrecede, isName_of_isBlank h, hpoint]

/-- Over blanks a scan moves on, and a keyword may begin behind them. -/
theorem scanFrom_blanks (offset : Nat) (rest : List Char) {before : Option Char}
    (hread : ∀ cs, keywordAt cs = none → read cs = none) (hcs : ∀ c ∈ cs, isBlank c = true)
    (hbefore : mayPrecede before = true) :
    mayPrecede (lastOr before cs) = true ∧
      scanFrom read offset before 0 (cs ++ rest) =
        scanFrom read (offset + cs.length) (lastOr before cs) 0 rest := by
  have hsilent : Silent keywordAt before cs rest := by
    induction cs generalizing before with
    | nil => exact silent_nil
    | cons c cs ih =>
      have hc := hcs c List.mem_cons_self
      rw [silent_cons_of_not_isName (isName_of_isBlank hc)]
      exact ih (fun d hd => hcs d (List.mem_cons_of_mem _ hd)) (mayPrecede_of_isBlank hc)
  refine ⟨?_, scanFrom_silent offset (hsilent.of_keywordAt hread)⟩
  cases hlast : cs.getLast? with
  | none => simpa [lastOr, hlast] using hbefore
  | some c =>
    simpa [lastOr, hlast] using mayPrecede_of_isBlank (hcs c (List.mem_of_getLast? hlast))

/-- A scan finds its part of every form on a page, and nothing else. -/
theorem Reads.scanFrom_code (h : Reads read part) (page : Page fresh) {offset : Nat}
    {before : Option Char} (hbefore : mayPrecede before = true) :
    scanFrom read offset before 0 page.code = page.found part offset := by
  induction page generalizing offset before with
  | finish => rfl
  | comment t _ =>
    have hscan := (scanFrom_blanks offset [] h.keyword
      (isBlank_of_mem_map_blankChar ("//".toList ++ t)) hbefore).2
    rw [List.append_nil] at hscan
    exact hscan
  | piece p rest ih =>
    obtain ⟨hlast, hscan⟩ :=
      scanFrom_blanks offset rest.code h.keyword p.isBlank_of_mem hbefore
    rw [Page.code, hscan, ih hlast, p.length_blanked, Page.found]
  | statement f rest ih =>
    have hshut := rest.closed.shut (rest.quoteFree rfl) f
    rw [Page.code, h.scanFrom_text hbefore hshut, ih (by decide), Page.found]

section

variable {statics reexports statics' reexports' : List (Nat × Sourced)}
  {requires dynamics requires' dynamics' : List (Nat × List Char)} {code : List Char}

/-- What is gathered of two parts of a text, put together. -/
theorem gathered_append :
    (gathered code (statics ++ statics') (reexports ++ reexports') (requires ++ requires')
        (dynamics ++ dynamics')).Perm
      (gathered code statics reexports requires dynamics ++
        gathered code statics' reexports' requires' dynamics') := by
  classical
  refine List.perm_iff_count.2 fun s => ?_
  simp only [gathered, List.filterMap_append, List.map_append, List.filter_append, List.count_append]
  omega

end

theorem statementBehind_congr {kind : Kind} {source : List Char} {specifiers : List String}
    (hlength : seen.length = before.length) (hcount : seen.count '\n' = before.count '\n') :
    statementBehind seen kind source specifiers = statementBehind before kind source specifiers := by
  simp [statementBehind, hlength, hcount]

/-- Of a form its statement is gathered, whatever stands around it. -/
theorem Form.gathered_eq (f : Form) :
    gathered (before ++ rest) (f.static?.toList.map (before.length, ·))
        (f.reexported?.toList.map (before.length, ·)) (f.required?.toList.map (before.length, ·))
        (f.called?.toList.map (before.length, ·)) =
      [f.statement before] := by
  cases f with
  | bare l =>
    have hnames : clauseNames? [] = some [] := by decide
    simp [gathered, static?, reexported?, required?, called?, staticStatement?, hnames,
      statementAt_length, statement, kind, literal, specifiers]
  | clause c l =>
    simp [gathered, static?, reexported?, required?, called?, staticStatement?_clause, statement,
      kind, literal, specifiers]
  | reexportAll l =>
    simp [gathered, static?, reexported?, required?, called?, reexportStatement?,
      statementAt_length, statement, kind, literal, specifiers]
  | reexportStar n l =>
    have hstar : starAs n ≠ ['*'] := by simp [starAs_eq]
    have hshown := staticStatement?_clause before rest (.star n) l.source
    rw [Clause.text] at hshown
    simp [gathered, static?, reexported?, required?, called?, reexportStatement?, hstar, hshown,
      statement, kind, literal, specifiers]
  | reexportNamed bs l =>
    have hbraces : braces bs ≠ ['*'] := by simp [braces]
    have hshown := staticStatement?_clause before rest (.named bs) l.source
    rw [Clause.text] at hshown
    simp [gathered, static?, reexported?, required?, called?, reexportStatement?, hbraces, hshown,
      statement, kind, literal, specifiers]
  | require n l =>
    simp [gathered, static?, reexported?, required?, called?, statementAt_length, statement, kind,
      literal, specifiers]
  | dynamic l h =>
    simp [gathered, static?, reexported?, required?, called?, h, statementAt_length, statement,
      kind, literal, specifiers]

namespace Page

/-- The four parts of the forms of a page make up its statements. -/
theorem gathered_perm (page : Page fresh) (seen before : List Char)
    (hlength : seen.length = before.length)
    (hcount : seen.count '\n' = before.count '\n') :
    (gathered (seen ++ page.code) (page.found Form.static? seen.length)
        (page.found Form.reexported? seen.length) (page.found Form.required? seen.length)
        (page.found Form.called? seen.length)).Perm (page.statementsBehind before) := by
  induction page generalizing seen before with
  | finish | comment t _ => exact .refl _
  | piece p rest ih =>
    have hoffset : seen.length + p.text.length = (seen ++ p.blanked).length := by
      rw [List.length_append, p.length_blanked]
    have hrest := ih (seen ++ p.blanked) (before ++ p.text)
      (by rw [← hoffset, hlength, List.length_append])
      (by rw [List.count_append, List.count_append, p.count_blanked, hcount])
    simpa only [code, found, statementsBehind, hoffset, List.append_assoc] using hrest
  | statement f rest ih =>
    have hoffset : seen.length + f.text.length = (seen ++ f.text).length := by
      rw [List.length_append]
    have hrest := ih (seen ++ f.text) (before ++ f.text)
      (by rw [List.length_append, List.length_append, hlength])
      (by rw [List.count_append, List.count_append, hcount])
    have hform : f.statement before = f.statement seen :=
      (statementBehind_congr hlength hcount).symm
    simp only [code, found, statementsBehind, hoffset, hform]
    refine gathered_append.trans ?_
    rw [f.gathered_eq, ← List.append_assoc seen]
    exact .cons _ hrest

theorem offset_of_mem_statementsBehind (page : Page fresh) {s : Statement}
    (h : s ∈ page.statementsBehind before) : (before.length : Int) ≤ s.offset := by
  induction page generalizing before with
  | finish | comment t _ => contradiction
  | piece p rest ih =>
    have hrest := ih h
    rw [List.length_append] at hrest
    omega
  | statement f rest ih =>
    rcases List.mem_cons.1 h with rfl | h
    · exact Int.le_refl _
    · have hrest := ih h
      rw [List.length_append] at hrest
      omega

theorem pairwise_offset (page : Page fresh) (before : List Char) :
    (page.statementsBehind before).Pairwise fun a b => a.offset < b.offset := by
  induction page generalizing before with
  | finish | comment t _ => exact .nil
  | piece p rest ih => exact ih _
  | statement f rest ih =>
    refine List.pairwise_cons.2 ⟨fun s hs => ?_, ih _⟩
    have hbehind := rest.offset_of_mem_statementsBehind hs
    have hne : 0 < f.text.length := by simp [Form.text]
    have hoffset : (f.statement before).offset = before.length := rfl
    rw [List.length_append] at hbehind
    omega

/-- Of a page exactly its statements are extracted, in order and where they stand. -/
theorem extract_text (page : Page fresh) :
    extract (String.ofList page.text) = page.statements := by
  have hscan : ∀ {α : Type} {read : List Char → Option (Found α)} {part : Form → Option α},
      Reads read part → scan read page.code = page.found part 0 :=
    fun h => h.scanFrom_code page (by rfl)
  have hperm : (unsorted page.code).Perm page.statements := by
    rw [unsorted, hscan reads_staticImport?, hscan reads_reexport?, hscan reads_require?,
      hscan reads_dynamicImport?]
    exact page.gathered_perm [] [] rfl rfl
  rw [extract, String.toList_ofList, extractChars_eq, page.blankComments_text]
  exact mergeSort_eq_of_perm_of_pairwise hperm (page.pairwise_offset [])

example :
    let page : Page true :=
      .statement (.clause (.default (.of "a")) (.of "x")) <|
        .piece (.line " from 'b'".toList (by decide)) <|
          .statement (.dynamic (.of "y") (by decide)) .finish
    page.text = "import a from 'x';// from 'b'\nimport('y');".toList ∧
      page.statements.map (fun s => (s.source, s.line, s.offset)) =
        [("x", 1, 0), ("y", 2, 30)] := by
  decide +kernel

end Page

end Coselect.Imports
