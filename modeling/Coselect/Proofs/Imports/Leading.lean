import Coselect.Proofs.Imports.Comments
import Coselect.Proofs.Imports.Extract

/-! A complete import in front of a text. It is found as written, and what is found of the rest
only moves on by its length and one line, unless a form that begins in the import goes on past its
line: a binding that finds its equals sign later on, or a re-export whose braces open in the
source. -/

namespace Coselect.Imports

open Text

variable {α : Type} {read : List Char → Option (Found α)} {front behind cs rest : List Char}
  {clause : Clause} {l : Literal}

/-- Behind a line feed everything is found that is found without it. -/
theorem scanFrom_line {offset : Nat} {before : Option Char}
    (hread : ∀ cs, keywordAt cs = none → read cs = none) :
    scanFrom read offset before 0 ('\n' :: rest) =
      (scan read rest).map fun found => (offset + 1 + found.1, found.2) := by
  have hfeed : Silent read before ['\n'] rest := by
    refine Silent.of_keywordAt hread ?_
    rw [silent_cons_of_not_isName (by decide)]
    exact silent_nil
  have hscan := scanFrom_silent offset hfeed
  rw [List.singleton_append] at hscan
  rw [hscan, scanFrom_eq_map_scan (by rfl), List.length_singleton]

/-- What a scan finds behind a silent line is what it finds without the line. -/
theorem scan_behind_line (hread : ∀ cs, keywordAt cs = none → read cs = none)
    (h : Silent read none front ('\n' :: rest)) :
    scan read (front ++ '\n' :: rest) =
      (scan read rest).map fun found => ((front ++ ['\n']).length + found.1, found.2) := by
  rw [scan, scanFrom_silent 0 h, scanFrom_line hread]
  simp

theorem scan_staticImport?_line :
    scan staticImport? (clause.importText l ++ '\n' :: rest) =
      (0, clause.text, l.source) :: (scan staticImport? rest).map fun found =>
        ((clause.importText l ++ ['\n']).length + found.1, found.2) := by
  rw [scan, scanFrom_read 0 (by rfl) (clause.importText_ne_nil l)
      (clause.staticImport?_importText l _), scanFrom_line fun _ => staticImport?_of_keywordAt]
  simp

/-- No call stands in an import on a line of its own. -/
theorem silent_dynamicImport? : Silent dynamicImport? none (clause.importText l) ('\n' :: rest) := by
  have hline : QuoteFree ('\n' :: rest) := by simp [QuoteFree]
  have hwords : ∀ {before rest},
      Silent keywordAt before ([' '] ++ (clause.text ++ " from ".toList)) rest := by
    intro before rest
    have hfrom : Leaves isName (" from ".toList ++ rest) := leaves_cons.2 (by decide)
    rw [silent_append, silent_append, silent_cons_of_not_isName (by decide)]
    exact ⟨silent_nil, clause.silent hfrom,
      silent_of_drop " from".toList (by decide) (by decide)⟩
  have hnone := clause.dynamicImport?_importText l ('\n' :: rest)
  have htext : clause.importText l =
      "import".toList ++ ([' '] ++ (clause.text ++ " from ".toList) ++ l.text) := by
    rw [clause.importText_eq]
    simp
  rw [htext] at hnone ⊢
  rw [List.append_assoc, List.append_assoc] at hnone
  exact silent_form (fun _ => dynamicImport?_of_keywordAt) (by decide) hwords hnone
    (dynamicImport?_noneIn l.isQuote hline)

theorem Clause.notMem_importText (clause : Clause) (l : Literal) : '\n' ∉ clause.importText l := by
  have hclause : '\n' ∉ clause.text := by
    intro hmem
    rcases clause.mem_text '\n' hmem with h | h | h <;> revert h <;> decide
  have hsource : '\n' ∉ l.source := fun hmem => absurd (l.plain _ hmem).1 (by decide)
  have hquote : '\n' ≠ l.quote := by rcases l.isQuote with h | h <;> simp [h]
  rw [clause.importText_eq]
  simp [Literal.text, hclause, hsource, hquote]

theorem blankComments_line :
    blankComments (clause.importText l ++ '\n' :: rest) =
      clause.importText l ++ '\n' :: blankComments rest := by
  have hfeed : blankFrom .code ('\n' :: rest) = '\n' :: blankFrom .code rest := rfl
  rw [blankComments, clause.blankFrom_importText, hfeed]
  rfl

/-- What is found with the import in front, when nothing else begins in it. -/
theorem unsorted_line {code : List Char}
    (hreexport : Silent reexport? none (clause.importText l) ('\n' :: code))
    (hrequire : Silent require? none (clause.importText l) ('\n' :: code)) :
    unsorted (clause.importText l ++ '\n' :: code) =
      clause.importBehind [] l ::
        (unsorted code).map (·.moved (clause.importText l ++ ['\n']).length 1) := by
  have hcount : (clause.importText l ++ ['\n']).count '\n' = 1 := by
    rw [List.count_append, List.count_eq_zero.2 (clause.notMem_importText l)]
    rfl
  have htext : clause.importText l ++ '\n' :: code = clause.importText l ++ ['\n'] ++ code := by simp
  have hfirst : staticStatement? (clause.importText l ++ '\n' :: code) (0, clause.text, l.source) =
      some (clause.importBehind [] l) := staticStatement?_clause [] _ clause l.source
  rw [unsorted, scan_staticImport?_line,
    scan_behind_line (fun _ => reexport?_of_keywordAt) hreexport,
    scan_behind_line (fun _ => require?_of_keywordAt) hrequire,
    scan_behind_line (fun _ => dynamicImport?_of_keywordAt) silent_dynamicImport?, gathered,
    List.filterMap_cons, hfirst, htext]
  simp only [unsorted, gathered, List.map_append, List.map_filterMap, List.filterMap_map,
    List.map_map, List.filter_map, List.cons_append, Function.comp_def, staticStatement?_append,
    reexportStatement?_append, statementAt_append, hcount]

/-- A statement that stands first stays first, and the others keep their order among themselves. -/
theorem mergeSort_first {s : Statement} {ss : List Statement} (hs : s.offset = 0)
    (h : ∀ t ∈ ss, 0 ≤ t.offset) (characters lines : Nat) :
    (s :: ss.map (·.moved characters lines)).mergeSort notAfter =
      s :: (ss.mergeSort notAfter).map (·.moved characters lines) := by
  obtain ⟨before, behind, hsort, hrest, hbefore⟩ :=
    List.mergeSort_cons notAfter_trans notAfter_total s (ss.map (·.moved characters lines))
  have hmoved : ∀ a ∈ ss, ∀ b ∈ ss,
      notAfter a b = notAfter (a.moved characters lines) (b.moved characters lines) := by
    intro a _ b _
    simp [notAfter, Statement.moved]
  have hnil : before = [] := by
    refine List.eq_nil_iff_forall_not_mem.2 fun t ht => ?_
    have hmem : t ∈ (ss.map (·.moved characters lines)).mergeSort notAfter := by
      rw [hrest]
      exact List.mem_append_left _ ht
    obtain ⟨t, htss, rfl⟩ := List.mem_map.1 (List.mem_mergeSort.1 hmem)
    have hfirst := hbefore _ ht
    have hoffset := h t htss
    simp only [notAfter, Statement.moved, Bool.not_eq_true', decide_eq_false_iff_not, hs] at hfirst
    omega
  subst hnil
  rw [List.nil_append] at hsort hrest
  rw [hsort, ← hrest, List.map_mergeSort hmoved]

/-- The rest of a text only moves on behind an import, exactly when no binding begins in that. -/
theorem extract_line_iff (clause : Clause) (l : Literal) (rest : List Char)
    (h : Silent reexport? none (clause.importText l) ('\n' :: blankComments rest)) :
    extract (String.ofList (clause.importText l ++ '\n' :: rest)) =
        clause.importBehind [] l ::
          (extract (String.ofList rest)).map (·.moved (clause.importText l ++ ['\n']).length 1) ↔
      Silent require? none (clause.importText l) ('\n' :: blankComments rest) := by
  simp only [extract, String.toList_ofList, extractChars_eq, blankComments_line]
  constructor
  · intro heq
    by_contra hrequire
    obtain ⟨n, x, hmem, hn⟩ := exists_mem_scanFrom_of_not_silent 0 hrequire
    have hfound : statementAt (clause.importText l ++ '\n' :: blankComments rest) .dynamicRequire n x
        [] ∈ (unsorted (clause.importText l ++ '\n' :: blankComments rest)).mergeSort notAfter :=
      List.mem_mergeSort.2 (mem_unsorted.2 (.inr (.inr (.inl ⟨(n, x), hmem, rfl⟩))))
    rw [heq, List.mem_cons, List.mem_map] at hfound
    rcases hfound with hfirst | ⟨s, hs, hmoved⟩
    · cases congrArg Statement.kind hfirst
    · -- What the rest of the text holds has moved behind the line, but the binding begins in it.
      have hnonneg := offset_nonneg_of_mem_unsorted (List.mem_mergeSort.1 hs)
      have hoffset : s.offset + ((clause.importText l ++ ['\n']).length : Nat) = (n : Int) :=
        congrArg Statement.offset hmoved
      rw [List.length_append] at hoffset
      omega
  · intro hrequire
    rw [unsorted_line h hrequire]
    exact mergeSort_first rfl (fun _ => offset_nonneg_of_mem_unsorted) _ _

/-- A semicolon in front of the equals sign keeps a binding of the next line apart. -/
theorem extract_line_iff_semicolon :
    Silent reexport? none ((Clause.default (.of "a")).importText (.of "x"))
        ('\n' :: blankComments ";const b = require('y')".toList) ∧
      Silent require? none ((Clause.default (.of "a")).importText (.of "x"))
        ('\n' :: blankComments ";const b = require('y')".toList) ∧
      extract (String.ofList ((Clause.default (.of "a")).importText (.of "x") ++
          '\n' :: ";const b = require('y')".toList)) =
        (Clause.default (.of "a")).importBehind [] (.of "x") ::
          (extract (String.ofList ";const b = require('y')".toList)).map
            (·.moved ((Clause.default (.of "a")).importText (.of "x") ++ ['\n']).length 1) :=
  ⟨by decide +kernel, by decide +kernel,
    (extract_line_iff _ _ _ (by decide +kernel)).2 (by decide +kernel)⟩

/-- The equals sign of the next line makes a binding of the import, which takes the required module
to its own line and offset. -/
theorem required_module_taken_by_import :
    (extract "const b = require('y')").map (fun s => (s.source, s.line, s.offset)) = [("y", 1, 0)] ∧
      (extract "import a from 'x'\nconst b = require('y')").map
          (fun s => (s.source, s.line, s.offset)) = [("x", 1, 0), ("y", 1, 0)] := by
  refine ⟨by decide +kernel, ?_⟩
  rw [extract_of_pairwise (by decide +kernel)]
  decide +kernel

end Coselect.Imports
