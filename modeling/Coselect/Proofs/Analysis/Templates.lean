import Mathlib.Logic.Function.Basic
import Coselect.Analysis.TestFile
import Coselect.Proofs.Path.Parts
import Coselect.Proofs.Text.Replace

/-! User patterns as templates: characters, and slots for the name, the suffix and the directory of a
file. A pattern is filled in slot by slot, the slots of one kind after those of another; as long as what
is filled in has no opening brace, this is the same as filling in all slots at once. -/

namespace Coselect.Analysis

open Coselect.Path Text

namespace Template

inductive Slot
  | name
  | ext
  | dir
  deriving DecidableEq

/-- A slot as a pattern has it. -/
def Slot.text : Slot → List Char
  | name => "\x7bname\x7d".toList
  | ext => "\x7bext\x7d".toList
  | dir => "\x7bdir\x7d".toList

/-- A part of a pattern: a character that opens no slot, or a slot. -/
inductive Piece
  | char (c : Char) (ordinary : c ≠ '\x7b')
  | slot (s : Slot)

def Piece.render (fill : Slot → List Char) : Piece → List Char
  | char c _ => [c]
  | slot s => fill s

/-- A template with its slots filled in. -/
def render (fill : Slot → List Char) (pieces : List Piece) : List Char :=
  pieces.flatMap (Piece.render fill)

/-- The pattern of a template. -/
def pattern (pieces : List Piece) : String := String.ofList (render Slot.text pieces)

variable {fill : Slot → List Char} {s : Slot}

/-- The text of a slot behind its brace. -/
def Slot.tail (s : Slot) : List Char := s.text.tail

theorem Slot.text_eq (s : Slot) : s.text = '\x7b' :: s.tail := by cases s <;> rfl

theorem brace_notMem_tail (s : Slot) : '\x7b' ∉ s.tail := by cases s <;> decide

/-- No slot starts where another one does. -/
theorem afterStart_text_of_ne {s' : Slot} (h : s' ≠ s) (rest : List Char) :
    afterStart s.text (s'.text ++ rest) = none := by
  cases s <;> cases s' <;> first | contradiction | rfl

/-- Replacing the text of one slot fills in this slot and no other, where what is there in place of the
others is either their text or has no brace. -/
theorem replaceFrom_render (hslot : fill s = s.text)
    (hothers : ∀ s' ≠ s, fill s' = s'.text ∨ '\x7b' ∉ fill s') (new : List Char) (pieces : List Piece) :
    replaceFrom s.text new 0 (render fill pieces) = render (Function.update fill s new) pieces := by
  have hbrace : ∀ {front rest}, '\x7b' ∉ front →
      replaceFrom s.text new 0 (front ++ rest) = front ++ replaceFrom s.text new 0 rest := by
    intro front rest h
    rw [s.text_eq]
    exact replaceFrom_append_of_notMem h
  induction pieces with
  | nil => rfl
  | cons piece pieces ih =>
    rw [render, List.flatMap_cons, render, List.flatMap_cons]
    change replaceFrom s.text new 0 (piece.render fill ++ render fill pieces) =
      piece.render (Function.update fill s new) ++ render (Function.update fill s new) pieces
    rw [← ih]
    cases piece with
    | char c ordinary => exact hbrace (by simpa [Piece.render] using ordinary.symm)
    | slot s' =>
      by_cases hs : s' = s
      · subst hs
        simp only [Piece.render, hslot, Function.update_self]
        rw [s'.text_eq]
        exact replaceFrom_append_old ..
      · simp only [Piece.render, Function.update_of_ne hs]
        rcases hothers s' hs with htext | hnone
        · rw [htext, s'.text_eq, List.cons_append, replaceFrom_cons_of_none,
            hbrace (brace_notMem_tail s'), List.cons_append]
          rw [← List.cons_append, ← s'.text_eq]
          exact afterStart_text_of_ne hs _
        · exact hbrace hnone

/-- A pattern filled in slot by slot. -/
def inSteps (fill : Slot → List Char) (pattern : List Char) : List Char :=
  replaceFrom Slot.dir.text (fill .dir) 0
    (replaceFrom Slot.ext.text (fill .ext) 0 (replaceFrom Slot.name.text (fill .name) 0 pattern))

/-- The directory may have braces, because it is filled in last. -/
theorem inSteps_render (hname : '\x7b' ∉ fill .name) (hext : '\x7b' ∉ fill .ext) (pieces : List Piece) :
    inSteps fill (render Slot.text pieces) = render fill pieces := by
  let named := Function.update Slot.text .name (fill .name)
  let suffixed := Function.update named .ext (fill .ext)
  have hnamed : replaceFrom Slot.name.text (fill .name) 0 (render Slot.text pieces) =
      render named pieces := replaceFrom_render rfl (fun _ _ => .inl rfl) _ pieces
  have hsuffixed : replaceFrom Slot.ext.text (fill .ext) 0 (render named pieces) =
      render suffixed pieces := by
    have hslot : named .ext = Slot.ext.text := rfl
    refine replaceFrom_render hslot (fun s hs => ?_) _ pieces
    cases s with
    | name => exact .inr hname
    | ext => contradiction
    | dir => exact .inl rfl
  have hfilled : replaceFrom Slot.dir.text (fill .dir) 0 (render suffixed pieces) =
      render (Function.update suffixed .dir (fill .dir)) pieces := by
    have hslot : suffixed .dir = Slot.dir.text := rfl
    refine replaceFrom_render hslot (fun s hs => ?_) _ pieces
    cases s with
    | name => exact .inr hname
    | ext => exact .inr hext
    | dir => contradiction
  have hall : Function.update suffixed .dir (fill .dir) = fill := by
    funext s
    cases s <;> rfl
  rw [inSteps, hnamed, hsuffixed, hfilled, hall]

theorem mem_inSteps {pattern : List Char} {c : Char} (h : c ∈ inSteps fill pattern) :
    (∃ s, c ∈ fill s) ∨ c ∈ pattern := by
  rcases mem_of_mem_replaceFrom h with h | h
  · exact .inl ⟨_, h⟩
  rcases mem_of_mem_replaceFrom h with h | h
  · exact .inl ⟨_, h⟩
  · exact (mem_of_mem_replaceFrom h).imp_left fun h => ⟨_, h⟩

/-! ### The pattern of a file -/

/-- What is filled in for a file. -/
def fillings (root path : String) : Slot → List Char
  | .name => (cutSuffix (baseName (normalize path))).1.toList
  | .ext => (cutSuffix (baseName (normalize path))).2.toList.dropWhile (· == '.')
  | .dir =>
    let way := relative (directory (normalize path)) (normalize root)
    if way = "." then [] else way.toList

/-- A path seen from the root after a leading slash, else from the directory of a file. -/
def anchored (root path text : String) : String :=
  if startsWith "/" text then
    combine (normalize root) (String.ofList (text.toList.dropWhile (· == '/')))
  else combine (directory (normalize path)) text

/-- The path that a template names for a file. -/
def named (root path : String) (pieces : List Piece) : String :=
  normalize (anchored root path (String.ofList (render (fillings root path) pieces)))

theorem expandTestPattern_eq (root pattern path : String) : expandTestPattern root pattern path =
    anchored root path (String.ofList (inSteps (fillings root path) pattern.toList)) := by
  have hdir : (if relative (directory (normalize path)) (normalize root) = "." then ""
      else relative (directory (normalize path)) (normalize root)).toList = fillings root path .dir := by
    unfold fillings
    split
    next h => simp [h]
    next h => simp [h]
  simp only [expandTestPattern, anchored, replace, inSteps, String.toList_ofList, hdir]
  rfl

theorem mem_baseName_of_mem_name {root path : String} {c : Char} (h : c ∈ fillings root path .name) :
    c ∈ (baseName (normalize path)).toList := by
  rw [fillings] at h
  exact mem_cutSuffix (.inl h)

theorem mem_baseName_of_mem_ext {root path : String} {c : Char} (h : c ∈ fillings root path .ext) :
    c ∈ (baseName (normalize path)).toList := by
  rw [fillings] at h
  exact mem_cutSuffix (.inr ((List.dropWhile_suffix _).subset h))

theorem named_eq (root path : String) (pieces : List Piece)
    (hbrace : '\x7b' ∉ (baseName (normalize path)).toList) :
    normalize (expandTestPattern root (pattern pieces) path) = named root path pieces := by
  have hname : '\x7b' ∉ fillings root path .name := fun h => hbrace (mem_baseName_of_mem_name h)
  have hext : '\x7b' ∉ fillings root path .ext := fun h => hbrace (mem_baseName_of_mem_ext h)
  rw [expandTestPattern_eq, pattern, String.toList_ofList, inSteps_render hname hext, named]

/-! ### Characters -/

theorem mem_fillings {root path : String} {s : Slot} {c : Char} (h : c ∈ fillings root path s) :
    c = '.' ∨ c = '/' ∨ c ∈ (normalize path).toList := by
  cases s with
  | name => exact .inr (.inr (mem_baseName (mem_baseName_of_mem_name h)))
  | ext => exact .inr (.inr (mem_baseName (mem_baseName_of_mem_ext h)))
  | dir =>
    rw [fillings] at h
    split at h
    next => cases h
    next => exact (mem_relative h).imp_right (·.imp_right mem_directory)

theorem mem_anchored {root path text : String} {c : Char} (h : c ∈ (anchored root path text).toList) :
    c = '/' ∨ c ∈ (normalize root).toList ∨ c ∈ (normalize path).toList ∨ c ∈ text.toList := by
  unfold anchored at h
  split at h
  next =>
    rcases mem_combine h with h | h | h
    · exact .inl h
    · exact .inr (.inl h)
    · rw [String.toList_ofList] at h
      exact .inr (.inr (.inr ((List.dropWhile_suffix _).subset h)))
  next =>
    rcases mem_combine h with h | h | h
    · exact .inl h
    · exact .inr (.inr (.inl (mem_directory h)))
    · exact .inr (.inr (.inr h))

/-- The path of a pattern has no characters but its own, those of the root and the file, slashes and
points. -/
theorem mem_expandTestPattern {root pattern path : String} {c : Char}
    (h : c ∈ (normalize (expandTestPattern root pattern path)).toList) :
    c = '.' ∨ c = '/' ∨ c ∈ pattern.toList ∨ c ∈ root.toList ∨ c ∈ path.toList := by
  have hpath : c ∈ (normalize path).toList →
      c = '.' ∨ c = '/' ∨ c ∈ pattern.toList ∨ c ∈ root.toList ∨ c ∈ path.toList :=
    fun h => .inr ((mem_normalize h).imp_right fun h => .inr (.inr h))
  rw [expandTestPattern_eq] at h
  rcases mem_normalize h with h | h
  · exact .inr (.inl h)
  rcases mem_anchored h with h | h | h | h
  · exact .inr (.inl h)
  · exact .inr ((mem_normalize h).imp_right fun h => .inr (.inl h))
  · exact hpath h
  · rw [String.toList_ofList] at h
    rcases mem_inSteps h with ⟨s, h⟩ | h
    · rcases mem_fillings h with h | h | h
      · exact .inl h
      · exact .inr (.inl h)
      · exact hpath h
    · exact .inr (.inr (.inl h))

end Template

end Coselect.Analysis
