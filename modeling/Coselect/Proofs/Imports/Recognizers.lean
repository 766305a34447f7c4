import Coselect.Proofs.Imports.Scan
import Coselect.Proofs.Imports.Written

/-! What every recognizer starts with and what it gives. Each of the four begins with a keyword that a
blank or a parenthesis ends, so none of them reads anything where no keyword stands, and each gives a
source that is not empty, on one line and without quotes. -/

namespace Coselect.Imports

open Text

variable {α : Type} {read : List Char → Option (Found α)} {part : String} {before : Option Char}
  {cs rest run name : List Char} {c : Char} {least n : Nat} {f : Found α} {x : α} {P : α → Prop}
  {words : List String}

theorem behind_append :
    behind part read (part.toList ++ rest) = (read rest).map (·.longer part.toList.length) := by
  simp [behind]

theorem behind_eq_none (h : ∀ rest, cs = part.toList ++ rest → read rest = none) :
    behind part read cs = none := by
  unfold behind
  cases hafter : afterStart part.toList cs with
  | none => rfl
  | some rest => simp [h rest (afterStart_eq_some_iff.1 hafter)]

theorem behind_eq_some (h : behind part read cs = some f) :
    ∃ rest g, cs = part.toList ++ rest ∧ read rest = some g ∧ f.what = g.what := by
  obtain ⟨rest, hrest, h⟩ := Option.bind_eq_some_iff.1 h
  obtain ⟨g, hg, rfl⟩ := Option.map_eq_some_iff.1 h
  exact ⟨rest, g, afterStart_eq_some_iff.1 hrest, hg, rfl⟩

theorem behindBlanks_run (hrun : ∀ c ∈ run, isBlank c = true) (hrest : Leaves isBlank rest) :
    behindBlanks least read (run ++ rest) =
      if run.length < least then none else (read rest).map (·.longer run.length) := by
  simp [behindBlanks, takeWhile_run hrun hrest]

theorem behindBlanks_of_leaves (hrest : Leaves isBlank rest) :
    behindBlanks 0 read rest = read rest := by
  unfold behindBlanks
  rw [takeWhile_of_leaves hrest]
  cases hread : read rest <;> simp [hread, Found.longer]

theorem behindBlanks_eq_none
    (h : ∀ run rest, cs = run ++ rest → (∀ c ∈ run, isBlank c = true) → Leaves isBlank rest →
      run.length < least ∨ read rest = none) :
    behindBlanks least read cs = none := by
  obtain ⟨run, rest, rfl, hrun, hrest⟩ := exists_run isBlank cs
  rw [behindBlanks_run hrun hrest]
  rcases h run rest rfl hrun hrest with hfew | hnone
  · rw [if_pos hfew]
  · simp [hnone]

theorem behindBlanks_one_of_leaves (h : Leaves isBlank cs) : behindBlanks 1 read cs = none := by
  unfold behindBlanks
  rw [takeWhile_of_leaves h]
  rfl

/-- At least one blank does not go on with a name. -/
theorem leaves_of_behindBlanks (h : behindBlanks 1 read cs ≠ none) : Leaves isName cs := by
  obtain ⟨run, rest, rfl, hrun, hrest⟩ := exists_run isBlank cs
  rw [behindBlanks_run hrun hrest] at h
  cases run with
  | nil => simp at h
  | cons c run => exact leaves_cons.2 (isName_of_isBlank (hrun c List.mem_cons_self))

/-- Stands where a keyword does. -/
def keywordAt (cs : List Char) : Option (Found Unit) :=
  if cs.takeWhile isName ∈ keywords then some ⟨(), 0⟩ else none

theorem keywordAt_of_leaves (h : Leaves isName cs) : keywordAt cs = none := by
  rw [keywordAt, takeWhile_of_leaves h]
  decide

theorem Identifier.keywordAt (n : Identifier) (h : Leaves isName rest) :
    keywordAt (n.name ++ rest) = none := by
  rw [Imports.keywordAt, takeWhile_run n.isName_of_mem h, if_neg n.notKeyword]

/-- A keyword that a recognizer starts with stands there whenever it reads something. -/
theorem behind_of_keywordAt (hpart : part.toList ∈ keywords)
    (hleaves : ∀ rest, read rest ≠ none → Leaves isName rest) (h : keywordAt cs = none) :
    behind part read cs = none := by
  refine behind_eq_none fun rest hcs => ?_
  by_contra hread
  have hname : ∀ w ∈ keywords, ∀ c ∈ w, isName c = true := by decide
  have hword : cs.takeWhile isName = part.toList := by
    rw [hcs, takeWhile_run (hname _ hpart) (hleaves rest hread)]
  simp [keywordAt, hword, hpart] at h

theorem staticImport?_of_keywordAt (h : keywordAt cs = none) : staticImport? cs = none :=
  behind_of_keywordAt (by decide) (fun _ => leaves_of_behindBlanks) h

theorem reexport?_of_keywordAt (h : keywordAt cs = none) : reexport? cs = none :=
  behind_of_keywordAt (by decide) (fun _ => leaves_of_behindBlanks) h

theorem require?_of_keywordAt (h : keywordAt cs = none) : require? cs = none := by
  unfold require?
  rw [List.findSome?_eq_none_iff]
  intro keyword hmem
  have hall : ∀ w ∈ ["const", "let", "var", "import"], w.toList ∈ keywords := by decide
  exact behind_of_keywordAt (hall keyword hmem) (fun _ => leaves_of_behindBlanks) h

theorem dynamicImport?_of_keywordAt (h : keywordAt cs = none) : dynamicImport? cs = none := by
  refine behind_of_keywordAt (by decide) (fun rest hread => ?_) h
  by_contra hname
  refine hread (behindBlanks_eq_none fun run rest' hcs hrun _ => .inr ?_)
  cases run with
  | nil =>
    -- The text goes on with a name, so no parenthesis opens there.
    refine behind_eq_none fun rest'' hopen => ?_
    subst hcs
    rw [hopen] at hname
    exact absurd (by simp; decide) hname
  | cons c run =>
    subst hcs
    exact absurd (leaves_cons.2 (isName_of_isBlank (hrun c List.mem_cons_self))) hname

/-- Where no keyword stands, nothing begins that starts with one. -/
theorem Silent.of_keywordAt (hread : ∀ cs, keywordAt cs = none → read cs = none)
    (h : Silent keywordAt before cs rest) : Silent read before cs rest :=
  fun u v hcs hv hu => hread _ (h u v hcs hv hu)

/-- A word in which nothing begins when nothing does at its start. -/
theorem silent_word (hname : ∀ c ∈ name, isName c = true) (hread : read (name ++ rest) = none) :
    Silent read before name rest := by
  cases name with
  | nil => exact silent_nil
  | cons c name =>
    have hc : mayPrecede (some c) = false := by simp [mayPrecede, hname c List.mem_cons_self]
    exact silent_cons.2
      ⟨fun _ => hread, silent_of_isName hc fun d hd => hname d (List.mem_cons_of_mem _ hd)⟩

theorem Identifier.silent (n : Identifier) (h : Leaves isName rest) :
    Silent Imports.keywordAt before n.name rest :=
  silent_word n.isName_of_mem (n.keywordAt h)

/-- In a text that no name goes on from, nothing begins when none of its words is a keyword. -/
theorem silent_of_drop (cs : List Char) (hc : isName c = false)
    (h : ∀ n ≤ cs.length, ((cs ++ [c]).drop n).takeWhile isName ∉ keywords) :
    Silent keywordAt before (cs ++ [c]) rest := by
  intro u v heq hv _
  obtain ⟨v, d, rfl⟩ := (List.eq_nil_or_concat v).resolve_left hv
  rw [List.concat_eq_append] at heq ⊢
  have hdrop : (cs ++ [c]).drop u.length = v ++ [d] := by rw [heq, List.drop_left]
  rw [← List.append_assoc] at heq
  obtain ⟨rfl, hd⟩ := List.append_inj' heq rfl
  obtain rfl : c = d := by simpa using hd
  -- The last character ends the word, so what follows does not lengthen it.
  have hword : (v ++ [c] ++ rest).takeWhile isName = (v ++ [c]).takeWhile isName := by
    obtain ⟨name, after, hv', hname, hafter⟩ := exists_run isName (v ++ [c])
    have hne : after ≠ [] := by
      rintro rfl
      have hmem : c ∈ name := by rw [← List.append_nil name, ← hv']; simp
      simp [hname c hmem] at hc
    rw [hv', takeWhile_run hname hafter, List.append_assoc,
      takeWhile_run hname ((leaves_append_of_ne_nil hne).2 hafter)]
  rw [keywordAt, hword, ← hdrop, if_neg (h _ (by simp))]

theorem Binding.silent (b : Binding) (h : Leaves isName rest) :
    Silent keywordAt before b.text rest := by
  cases b with
  | plain n => exact n.silent h
  | renamed n m =>
    have has : ∀ {before rest}, Silent keywordAt before " as ".toList rest := by
      intro before rest
      exact silent_of_drop " as".toList (by decide) (by decide)
    have hleaves : Leaves isName (" as ".toList ++ (m.name ++ rest)) := leaves_cons.2 (by decide)
    rw [text, silent_append, silent_append]
    exact ⟨⟨n.silent hleaves, has⟩, m.silent h⟩

theorem silent_comma : Silent keywordAt before ", ".toList rest :=
  silent_of_drop [','] (by decide) (by decide)

theorem silent_listed (bs : List Binding) (h : Leaves isName rest) :
    Silent keywordAt before (listed bs) rest := by
  unfold listed
  induction bs generalizing before with
  | nil => exact silent_nil
  | cons b bs ih =>
    cases bs with
    | nil => exact b.silent h
    | cons b' bs =>
      have hleaves : ∀ cs, Leaves isName (", ".toList ++ cs) := fun cs => leaves_cons.2 (by decide)
      rw [List.map_cons, List.map_cons, joinWith, silent_append, silent_append]
      · exact ⟨⟨b.silent (hleaves _), silent_comma⟩, ih⟩
      · simp

theorem silent_cons_of_not_isName (hc : isName c = false) :
    Silent keywordAt before (c :: cs) rest ↔ Silent keywordAt (some c) cs rest := by
  have hnone : mayPrecede before = true → keywordAt (c :: cs ++ rest) = none :=
    fun _ => keywordAt_of_leaves (leaves_cons.2 hc)
  rw [silent_cons, and_iff_right hnone]

theorem silent_braces (bs : List Binding) : Silent keywordAt before (braces bs) rest := by
  rw [braces, silent_cons_of_not_isName (by decide), silent_append,
    silent_cons_of_not_isName (by decide)]
  exact ⟨silent_listed bs (leaves_cons.2 (by decide)), silent_nil⟩

theorem silent_starAs (n : Identifier) (h : Leaves isName rest) :
    Silent keywordAt before (starAs n) rest := by
  rw [starAs_eq, silent_append]
  exact ⟨silent_of_drop "* as".toList (by decide) (by decide), n.silent h⟩

/-- No keyword stands in a clause. -/
theorem Clause.silent (clause : Clause) (h : Leaves isName rest) :
    Silent keywordAt before clause.text rest := by
  have hcomma : ∀ cs, Leaves isName (", ".toList ++ cs) := fun cs => leaves_cons.2 (by decide)
  cases clause with
  | default n => exact n.silent h
  | named bs => exact silent_braces bs
  | star n => exact silent_starAs n h
  | defaultNamed n bs =>
    rw [text, silent_append, silent_append]
    exact ⟨⟨n.silent (hcomma _), silent_comma⟩, silent_braces bs⟩
  | defaultStar n m =>
    rw [text, silent_append, silent_append]
    exact ⟨⟨n.silent (hcomma _), silent_comma⟩, silent_starAs m h⟩

/-! ### What a recognizer gives -/

/-- Whatever a reader reads has a property. -/
def Gives (P : α → Prop) (read : List Char → Option (Found α)) : Prop :=
  ∀ cs f, read cs = some f → P f.what

/-- Stands between quotes on one line. -/
def IsSource (s : List Char) : Prop := s ≠ [] ∧ ∀ c ∈ s, isSourceChar c = true

def NamesSource (x : Sourced) : Prop := IsSource x.2

theorem what_of_map {β : Type} {Q : β → Prop} {o : Option (Found α)} {k : Found α → Found β}
    {g : Found β} (h : ∀ f, o = some f → P f.what) (hg : o.map k = some g)
    (hk : ∀ f, P f.what → Q (k f).what) : Q g.what := by
  obtain ⟨f, hf, rfl⟩ := Option.map_eq_some_iff.1 hg
  exact hk f (h f hf)

theorem Gives.behind (h : Gives P read) : Gives P (behind part read) := by
  intro cs f hf
  obtain ⟨rest, g, -, hg, hwhat⟩ := behind_eq_some hf
  exact hwhat ▸ h rest g hg

theorem Gives.behindBlanks (h : Gives P read) : Gives P (behindBlanks least read) := by
  intro cs f hf
  unfold Imports.behindBlanks at hf
  dsimp only at hf
  split at hf
  next => contradiction
  next => exact what_of_map (h _) hf fun _ hx => hx

theorem gives_quotedSource? : Gives IsSource quotedSource? := by
  intro cs f hf
  unfold quotedSource? at hf
  split at hf
  next => contradiction
  next q cs =>
    dsimp only at hf
    split at hf
    next hsource =>
      cases hf
      simp only [Bool.and_eq_true, Bool.not_eq_true', List.isEmpty_eq_false_iff] at hsource
      exact ⟨hsource.1.2, fun c => List.mem_takeWhile_imp⟩
    next => contradiction

theorem gives_fromSource? : Gives IsSource fromSource? :=
  gives_quotedSource?.behindBlanks.behind.behindBlanks

theorem gives_clauseAndSource? (before : Char) : Gives NamesSource (clauseAndSource? before) := by
  intro cs
  induction cs generalizing before with
  | nil =>
    intro f hf
    unfold clauseAndSource? at hf
    split at hf
    next g hg =>
      cases hf
      exact gives_fromSource? _ g (Option.ite_none_right_eq_some.1 hg).2
    next => contradiction
  | cons c cs ih =>
    intro f hf
    unfold clauseAndSource? at hf
    split at hf
    next g hg =>
      cases hf
      exact gives_fromSource? _ g (Option.ite_none_right_eq_some.1 hg).2
    next =>
      obtain ⟨-, hf⟩ := Option.ite_none_left_eq_some.1 hf
      exact what_of_map (ih c) hf fun _ hx => hx

theorem gives_importBody? : Gives NamesSource importBody? := by
  intro cs f hf
  unfold importBody? at hf
  split at hf
  next => contradiction
  next =>
    split at hf
    next g hg =>
      cases hf
      exact gives_clauseAndSource? ' ' cs _ hg
    next => exact what_of_map (gives_quotedSource? _) hf fun _ hx => hx

theorem gives_staticImport? : Gives NamesSource staticImport? :=
  gives_importBody?.behindBlanks.behind

theorem gives_starAs? : Gives NamesSource starAs? := by
  intro cs f hf
  unfold starAs? at hf
  simp only at hf
  split at hf
  next => contradiction
  next =>
    split at hf
    next => contradiction
    next =>
      split at hf
      next g hg =>
        cases hf
        exact gives_fromSource? _ g hg
      next =>
        split at hf
        next => contradiction
        next => exact what_of_map (gives_fromSource? _) hf fun _ hx => hx

theorem gives_reexportBody? : Gives NamesSource reexportBody? := by
  intro cs f hf
  unfold reexportBody? at hf
  split at hf
  next => contradiction
  next c cs =>
    split at hf
    next =>
      split at hf
      next g hg =>
        cases hf
        exact gives_starAs? cs _ hg
      next => exact what_of_map (gives_fromSource? _) hf fun _ hx => hx
    next =>
      split at hf
      next =>
        dsimp only at hf
        split at hf
        next =>
          split at hf
          next => exact what_of_map (gives_fromSource? _) hf fun _ hx => hx
          next => contradiction
        next => contradiction
      next => contradiction

theorem gives_reexport? : Gives NamesSource reexport? := by
  refine Gives.behind (Gives.behindBlanks fun cs f hf => ?_)
  split at hf
  next g hg =>
    cases hf
    exact gives_reexportBody?.behindBlanks.behind cs _ hg
  next => exact gives_reexportBody? cs f hf

/-- The closing parenthesis has no part in what is given. -/
theorem gives_closing (x : α) : Gives (· = x) (behindBlanks 0 (behind ")" fun _ => some ⟨x, 0⟩)) := by
  refine Gives.behindBlanks (Gives.behind fun cs f hf => ?_)
  cases hf
  rfl

theorem gives_requireCall? : Gives IsSource requireCall? := by
  refine Gives.behindBlanks (Gives.behind (Gives.behindBlanks (Gives.behind (Gives.behindBlanks ?_))))
  intro cs f hf
  obtain ⟨g, hg, hf⟩ := Option.bind_eq_some_iff.1 hf
  obtain ⟨f', hf', rfl⟩ := Option.map_eq_some_iff.1 hf
  have hsame : f'.what = g.what := gives_closing g.what _ f' hf'
  exact hsame ▸ gives_quotedSource? cs g hg

theorem gives_bindingCall? (nesting : Nesting) : Gives IsSource (bindingCall? nesting) := by
  intro cs
  induction cs generalizing nesting with
  | nil => cases nesting <;> exact fun f hf => nomatch hf
  | cons c cs ih =>
    have hlonger : ∀ {nesting f}, (bindingCall? nesting cs).map (·.longer 1) = some f → IsSource f.what :=
      fun hf => what_of_map (ih _) hf fun _ hx => hx
    intro f hf
    cases nesting with
    | inside o e =>
      obtain ⟨-, hf⟩ := Option.ite_none_left_eq_some.1 hf
      exact hlonger hf
    | outside =>
      unfold bindingCall? at hf
      split at hf
      next => exact what_of_map (gives_requireCall? _) hf fun _ hx => hx
      next =>
        split at hf
        next => exact hlonger hf
        next =>
          split at hf
          next => exact hlonger hf
          next =>
            obtain ⟨-, hf⟩ := Option.ite_none_left_eq_some.1 hf
            exact hlonger hf

theorem gives_require? : Gives IsSource require? := by
  intro cs f hf
  obtain ⟨keyword, -, hf⟩ := List.exists_of_findSome?_eq_some hf
  exact (gives_bindingCall? .outside).behindBlanks.behind cs f hf

theorem gives_argument? : Gives IsSource argument? := by
  intro cs f hf
  unfold argument? at hf
  split at hf
  next => contradiction
  next q rest =>
    dsimp only at hf
    obtain ⟨hsource, hf⟩ := Option.ite_none_right_eq_some.1 hf
    obtain ⟨f', hf', rfl⟩ := Option.map_eq_some_iff.1 hf
    have hsame := gives_closing _ _ f' hf'
    simp only [Bool.and_eq_true, Bool.not_eq_true', List.isEmpty_eq_false_iff] at hsource
    refine ⟨by simpa [Found.longer, hsame] using hsource.1.2, fun c hc => ?_⟩
    have hmem : c ∈ rest.takeWhile fun c => isSourceChar c && c != '\x60' := by
      simpa [Found.longer, hsame] using hc
    have hplain := List.mem_takeWhile_imp hmem
    exact (Bool.and_eq_true_iff.1 hplain).1

theorem gives_dynamicImport? : Gives IsSource dynamicImport? :=
  gives_argument?.behindBlanks.behind.behindBlanks.behind

theorem of_mem_scan (h : Gives P read) (hmem : (n, x) ∈ scan read cs) : P x := by
  obtain ⟨-, v, f, -, -, hf, rfl⟩ := exists_read_of_mem_scanFrom hmem
  exact h v f hf

/-- Begins with one of some words wherever it reads something. -/
def BeginsWith (words : List String) (read : List Char → Option (Found α)) : Prop :=
  ∀ cs f, read cs = some f → ∃ word ∈ words, word.toList <+: cs

theorem beginsWith_behind : BeginsWith [part] (behind part read) := by
  intro cs f hf
  obtain ⟨rest, _, rfl, -⟩ := behind_eq_some hf
  exact ⟨part, List.mem_singleton_self _, List.prefix_append ..⟩

theorem beginsWith_require? : BeginsWith ["const", "let", "var", "import"] require? := by
  intro cs f hf
  obtain ⟨keyword, hmem, hf⟩ := List.exists_of_findSome?_eq_some hf
  obtain ⟨word, hword, hcs⟩ := beginsWith_behind cs f hf
  rw [List.mem_singleton.1 hword] at hcs
  exact ⟨keyword, hmem, hcs⟩

end Coselect.Imports
