import Coselect.Proofs.Imports.Comments
import Coselect.Proofs.Imports.Extract

/-! An import behind a text that may hold malformed ones. A malformed import in front of it that no
semicolon ends reads on to the next source, so it takes the import on a later line with it. The last
line's import is found exactly when a semicolon stands behind every earlier `import`. -/

namespace Coselect.Imports

open Text

variable {cs s v w rest : List Char} {c : Char} {clause : Clause} {l : Literal}

/-- Opens neither a literal, a comment nor a call. -/
def isCalm (c : Char) : Bool := isBare c && c != '(' && c != ')'

theorem isClauseStop_of_isCalm (h : isCalm c = true) (hc : c ≠ ';') : isClauseStop c = false := by
  simp only [isCalm, isBare, isQuote, backquote, Bool.and_eq_true, Bool.not_eq_true',
    Bool.or_eq_false_iff, beq_eq_false_iff_ne, bne_iff_ne] at h
  obtain ⟨⟨⟨⟨⟨h₁, h₂⟩, h₃⟩, -⟩, h₄⟩, h₅⟩ := h
  simp [isClauseStop, h₁, h₂, h₃, h₄, h₅, hc]

/-- An import in front of another one goes on to the source of the latter. -/
theorem staticImport?_reads_on (clause : Clause) (l : Literal) (hw : ∀ c ∈ w, isCalm c = true)
    (hstart : w.head?.any isBlank = true) (hsemi : ';' ∉ w) :
    ∃ x, staticImport? ("import".toList ++ w ++ clause.importText l) =
      some ⟨x, ("import".toList ++ w ++ clause.importText l).length⟩ := by
  obtain ⟨run, cs, rfl, hrun, hcs⟩ := exists_run isBlank w
  have hne : run ≠ [] := by
    rintro rfl
    cases cs with
    | nil => simp at hstart
    | cons c cs =>
      have hblank : isBlank c = true := by simpa using hstart
      simp [hblank] at hcs
  -- The clause is what is left of the first import, with the keyword and the clause of the second.
  have hstop : ∀ c ∈ cs ++ "import ".toList ++ clause.text, isClauseStop c = false := by
    have himport : ∀ c ∈ "import ".toList, isClauseStop c = false := by decide
    refine List.forall_mem_append.2 ⟨List.forall_mem_append.2 ⟨fun c hc => ?_, himport⟩,
      clause.isClauseStop_of_mem⟩
    refine isClauseStop_of_isCalm (hw c (List.mem_append_right _ hc)) ?_
    rintro rfl
    exact hsemi (List.mem_append_right _ hc)
  have ht : Tight (cs ++ "import ".toList ++ clause.text) := by
    refine ⟨by simp, ?_, ?_⟩
    · cases cs with
      | nil => exact leaves_cons.2 (by decide)
      | cons c cs => simpa using hcs
    · rw [List.reverse_append]
      exact (leaves_append_of_ne_nil (by simpa using clause.tight.ne_nil)).2 clause.tight.ends
  have hread := staticImport?_run l [] hne hrun ht hstop
  have hlength : ("import".toList ++ (run ++ cs) ++ clause.importText l).length =
      6 + (run.length + ((cs ++ "import ".toList ++ clause.text).length + (6 + l.text.length))) := by
    rw [clause.importText_eq]
    simp
    omega
  rw [← hlength] at hread
  refine ⟨(cs ++ "import ".toList ++ clause.text, l.source), ?_⟩
  rw [← hread, clause.importText_eq]
  simp only [List.append_assoc, List.append_nil]

/-- A semicolon behind the keyword ends the search for a source. -/
theorem staticImport?_semicolon (rest : List Char) (hw : ∀ c ∈ w, isCalm c = true)
    (hsemi : ';' ∈ w) :
    staticImport? ("import".toList ++ w ++ rest) = none := by
  obtain ⟨u, v, rfl, hu⟩ := List.eq_append_cons_of_mem hsemi
  rw [staticImport?, List.append_assoc, behind_append, Option.map_eq_none_iff, List.append_assoc,
    List.cons_append]
  refine behindBlanks_eq_none fun run cs heq hrun hcs => .inr ?_
  obtain ⟨u, rfl, rfl⟩ :=
    exists_of_append_eq (notMem_of_class hrun (by decide)) heq
  have hstop : ∀ c ∈ u, isClauseStop c = false := by
    intro c hc
    refine isClauseStop_of_isCalm (hw c (by simp [hc])) ?_
    rintro rfl
    exact hu (List.mem_append_right _ hc)
  have hquoted : quotedSource? (u ++ ';' :: (v ++ rest)) = none := by
    cases u with
    | nil => rfl
    | cons c u => exact quotedSource?_of_isClauseStop (hstop c List.mem_cons_self)
  rw [importBody?, clauseAndSource?_semicolon hstop, hquoted]
  split <;> rfl

/-- What begins in a calm text that ends in a line feed is an import that no semicolon ends, and it
takes the import behind the text with it. -/
theorem exists_of_staticImport? {f : Found Sourced} (hv : ∀ c ∈ v ++ ['\n'], isCalm c = true)
    (h : staticImport? (v ++ ['\n'] ++ clause.importText l) = some f) :
    ∃ w, v ++ ['\n'] = "import".toList ++ w ∧ w.head?.any isBlank = true ∧ ';' ∉ w ∧
      f.length = (v ++ ['\n'] ++ clause.importText l).length := by
  obtain ⟨r, hr, hread⟩ : ∃ r, v ++ ['\n'] ++ clause.importText l = "import".toList ++ r ∧
      behindBlanks 1 importBody? r ≠ none := by
    by_contra hnone
    have hread := behind_eq_none fun r hr => by_contra fun hread => hnone ⟨r, hr, hread⟩
    rw [staticImport?, hread] at h
    contradiction
  rw [List.append_assoc, List.singleton_append] at hr
  obtain ⟨w, rfl, rfl⟩ := exists_of_append_eq (by decide) hr
  have hstart : (w ++ ['\n']).head?.any isBlank = true := by
    obtain ⟨run, cs, heq, hrun, hcs⟩ := exists_run isBlank (w ++ '\n' :: clause.importText l)
    rw [heq, behindBlanks_run hrun hcs] at hread
    cases run with
    | nil => simp at hread
    | cons c run =>
      have hc := hrun c List.mem_cons_self
      cases w <;> obtain ⟨rfl, -⟩ := List.cons.inj heq <;> simpa using hc
  have hw : ∀ c ∈ w ++ ['\n'], isCalm c = true := by
    intro c hc
    exact hv c (by rw [List.append_assoc]; exact List.mem_append_right _ hc)
  have hsemi : ';' ∉ w ++ ['\n'] := by
    intro hmem
    have hnone := staticImport?_semicolon (clause.importText l) hw hmem
    rw [← List.append_assoc "import".toList, h] at hnone
    contradiction
  obtain ⟨x, hx⟩ := staticImport?_reads_on clause l hw hstart hsemi
  refine ⟨w ++ ['\n'], by simp, hstart, hsemi, ?_⟩
  rw [← List.append_assoc "import".toList, h] at hx
  rw [Option.some.inj hx]

section

variable {front : List Char} (hfront : ∀ c ∈ front, isCalm c = true)

include hfront

theorem isCalm_of_mem_front : ∀ c ∈ front ++ ['\n'], isCalm c = true :=
  List.forall_mem_append.2 ⟨hfront, by decide⟩

/-- The import in front of which a text ends takes everything that begins in the text. -/
theorem exists_unfinished {u : List Char} {f : Found Sourced} (heq : front ++ ['\n'] = u ++ v)
    (hv : v ≠ []) (h : staticImport? (v ++ clause.importText l) = some f) :
    ∃ w, v = "import".toList ++ w ∧ w.head?.any isBlank = true ∧ ';' ∉ w ∧
      f.length = (v ++ clause.importText l).length := by
  obtain ⟨v, c, rfl⟩ := (List.eq_nil_or_concat v).resolve_left hv
  rw [List.concat_eq_append] at heq h ⊢
  rw [← List.append_assoc] at heq
  obtain ⟨-, hc⟩ := List.append_inj' heq rfl
  obtain rfl : '\n' = c := by simpa using hc
  refine exists_of_staticImport? (fun d hd => isCalm_of_mem_front hfront d ?_) h
  rw [heq, List.append_assoc]
  exact List.mem_append_right _ hd

theorem silent_staticImport?_iff (clause : Clause) (l : Literal) :
    Silent staticImport? none (front ++ ['\n']) (clause.importText l) ↔
      ∀ u w, front ++ ['\n'] = u ++ ("import".toList ++ w) → mayPrecede u.getLast? = true →
        w.head?.any isBlank = true → ';' ∈ w := by
  constructor
  · intro hsilent u w heq hu hstart
    by_contra hsemi
    have hw : ∀ c ∈ w, isCalm c = true := by
      intro c hc
      exact isCalm_of_mem_front hfront c (by simp [heq, hc])
    obtain ⟨x, hx⟩ := staticImport?_reads_on clause l hw hstart hsemi
    have hnone := hsilent u ("import".toList ++ w) heq (by simp) (by simpa [lastOr] using hu)
    rw [hx] at hnone
    contradiction
  · intro h u v heq hv hu
    by_contra hread
    obtain ⟨f, hf⟩ := Option.ne_none_iff_exists'.1 hread
    obtain ⟨w, rfl, hstart, hsemi, -⟩ := exists_unfinished hfront heq hv hf
    exact hsemi (h u w heq (by simpa [lastOr] using hu) hstart)

theorem blankComments_front :
    blankComments (front ++ ['\n'] ++ clause.importText l) =
      front ++ ['\n'] ++ clause.importText l := by
  have hbare : ∀ c ∈ front ++ ['\n'], isBare c = true := by
    intro c hc
    have hcalm := isCalm_of_mem_front hfront c hc
    simp only [isCalm, Bool.and_eq_true] at hcalm
    exact hcalm.1.1
  have himport := clause.blankFrom_importText l []
  rw [List.append_nil] at himport
  rw [blankComments, blankFrom_bare hbare, himport]
  simp [blankFrom]

/-- An import that reads on is all that is found. -/
theorem scan_of_not_silent
    (h : ¬ Silent staticImport? none (front ++ ['\n']) (clause.importText l)) :
    ∃ n x, scan staticImport? (front ++ ['\n'] ++ clause.importText l) = [(n, x)] ∧
      n < (front ++ ['\n']).length := by
  obtain ⟨u, v, f, heq, hv, hu, hlast, hf⟩ := (silent_or_first _ _ _ _).resolve_left h
  obtain ⟨w, -, -, -, hlength⟩ := exists_unfinished hfront heq hv hf
  have hne : v ++ clause.importText l ≠ [] := by simp [hv]
  have hwhole : staticImport? (v ++ clause.importText l ++ []) =
      some ⟨f.what, (v ++ clause.importText l).length⟩ := by
    rw [List.append_nil, hf, ← hlength]
  have hread := scanFrom_read (0 + u.length) hlast hne hwhole
  rw [List.append_nil] at hread
  refine ⟨u.length, f.what, ?_, ?_⟩
  · rw [scan, heq, List.append_assoc, scanFrom_silent 0 hu, hread]
    simp [scanFrom]
  · rw [heq, List.length_append]
    have := List.length_pos_iff.2 hv
    omega

omit hfront in
theorem scan_of_silent
    (h : Silent staticImport? none (front ++ ['\n']) (clause.importText l)) :
    scan staticImport? (front ++ ['\n'] ++ clause.importText l) =
      [((front ++ ['\n']).length, clause.text, l.source)] := by
  have hbefore : mayPrecede (lastOr none (front ++ ['\n'])) = true := by
    rw [lastOr_append]
    rfl
  have hread := scanFrom_read (0 + (front ++ ['\n']).length) hbefore
    (clause.importText_ne_nil l) (clause.staticImport?_importText l [])
  rw [List.append_nil] at hread
  rw [scan, scanFrom_silent 0 h, hread]
  simp [scanFrom]

/-- The import behind a text is found exactly when every `import` in the text has a semicolon
behind it. -/
theorem mem_extract_behind_iff (clause : Clause) (l : Literal) :
    clause.importBehind (front ++ ['\n']) l ∈
        extract (String.ofList (front ++ ['\n'] ++ clause.importText l)) ↔
      ∀ u w, front ++ ['\n'] = u ++ ("import".toList ++ w) → mayPrecede u.getLast? = true →
        w.head?.any isBlank = true → ';' ∈ w := by
  rw [← silent_staticImport?_iff hfront clause l, extract, String.toList_ofList,
    extractChars_eq, List.mem_mergeSort, blankComments_front hfront, mem_unsorted]
  constructor
  · intro hmem
    by_contra hsilent
    obtain ⟨n, x, hscan, hn⟩ := scan_of_not_silent hfront hsilent
    rcases hmem with ⟨found, hfound, hs⟩ | ⟨found, hfound, hs⟩ | ⟨found, -, hs⟩ | ⟨found, -, -, hs⟩
    · rw [hscan, List.mem_singleton] at hfound
      have hoffset := (of_staticStatement? hs).1
      subst hfound
      have : ((front ++ ['\n']).length : Int) = n := hoffset
      omega
    · -- Where the import stands no re-export begins.
      have hoffset : ((front ++ ['\n']).length : Int) = found.1 := (of_reexportStatement? hs).1
      obtain ⟨u, v, f, heq, hlength, hread, -⟩ := exists_read_of_mem_scanFrom hfound
      obtain ⟨-, rfl⟩ := List.append_inj heq (by omega)
      have hnone : reexport? (clause.importText l) = none := behind_eq_none fun r hr => by
        cases hr
      rw [hnone] at hread
      contradiction
    · cases congrArg Statement.kind hs
    · cases congrArg Statement.kind hs
  · intro hsilent
    refine .inl ⟨_, ?_, staticStatement?_clause _ _ clause l.source⟩
    rw [scan_of_silent hsilent]
    exact List.mem_singleton_self _

end

/-- A semicolon behind the open brace keeps the import of the next line. -/
theorem mem_extract_behind_iff_closed_brace :
    (∀ c ∈ "import \x7b a;".toList, isCalm c = true) ∧
      (Clause.named [.plain (.of "b")]).importBehind ("import \x7b a;".toList ++ ['\n']) (.of "x") ∈
        extract (String.ofList ("import \x7b a;".toList ++ ['\n'] ++
          (Clause.named [.plain (.of "b")]).importText (.of "x"))) := by
  have hcalm : ∀ c ∈ "import \x7b a;".toList, isCalm c = true := by decide
  refine ⟨hcalm, (mem_extract_behind_iff hcalm (.named [.plain (.of "b")]) (.of "x")).2 ?_⟩
  intro u w heq _ _
  have hline : "import \x7b a;".toList ++ ['\n'] = 'i' :: "mport \x7b a;\n".toList := by decide
  rw [hline] at heq
  cases u with
  | nil =>
    have hw : "mport".toList ++ " \x7b a;\n".toList = "mport".toList ++ w := (List.cons.inj heq).2
    rw [← List.append_cancel_left hw]
    decide
  | cons c u =>
    -- the line has one `i`, and that would stand before the keyword and in it
    have hcount := congrArg (List.count 'i') (List.cons.inj heq).2
    simp at hcount

/-- An open brace takes the import of the next line with it, which alone is found. -/
theorem import_hidden_behind_open_brace :
    (∀ c ∈ "import \x7b".toList, isCalm c = true) ∧
      (extract "import \x7bb\x7d from 'x'").map (fun s => (s.source, s.specifiers)) = [("x", ["b"])] ∧
      (extract "import \x7b\nimport \x7bb\x7d from 'x'").isEmpty = true :=
  ⟨by decide, by decide +kernel, by decide +kernel⟩

end Coselect.Imports
