import Mathlib.Logic.Relation
import Coselect.Proofs.Analysis.Parts
import Coselect.Proofs.Disk.Timeline
import Coselect.Proofs.Imports.Cache

/-! Extractions side by side on one analyzer, while the files change. Statements are stored under
the stamp that the file had before it was read, so an entry may be newer than its stamp says, but
it is never older: whoever meets the file with that stamp again finds it as it was read, or was
under way already when it was read. -/

namespace Coselect.Analysis

open Disk Imports Relation

variable {α β : Type} {w : Workspace} {suffixes : List String} {disk : Nat → Volume} {path : String}
  {stamp : Option Stamp} {t : Stamp} {statements : List Statement} {began n m : Nat}
  {I : Nat → Caches → Prop}

/-- Some statements were those of a file at a moment of a stretch of time. -/
def Shown (disk : Nat → Volume) (path : String) (began ended : Nat) (statements : List Statement) :
    Prop :=
  ∃ i text, began ≤ i ∧ i ≤ ended ∧ (disk i).read path = .ok text ∧ statements = extract text

/-- An extraction from a file: the moments when it began and when it last went on, and what is
still to come of it. -/
structure Extraction where
  path : String
  suffixes : List String
  began : Nat
  latest : Nat
  rest : Inquiry (Except Failure (List Statement))

def Extraction.start (w : Workspace) (path : String) (suffixes : List String) (now : Nat) :
    Extraction :=
  { path, suffixes, began := now, latest := now, rest := (importsOf w suffixes path).run }

/-- The present moment, the caches, and the extractions with their numbers. -/
structure Scene where
  now : Nat := 0
  caches : Caches
  calls : Table Nat Extraction := .empty

namespace Scene

/-- An extraction goes on. -/
def goOn (s : Scene) (id : Nat) (x : Extraction)
    (rest : Inquiry (Except Failure (List Statement))) : Table Nat Extraction :=
  s.calls.insert id { x with latest := s.now, rest }

/-- What may happen next: time goes on to the next disk, an extraction begins, entries of the
cache are dropped and the other caches change, or an extraction has its question answered or its
turn at the caches. -/
inductive Step (w : Workspace) (disk : Nat → Volume) (s : Scene) : Scene → Prop
  | tick : Step w disk s { s with now := s.now + 1 }
  | begin (id : Nat) (path : String) (suffixes : List String) : s.calls.get? id = none →
      Step w disk s { s with calls := s.calls.insert id (.start w path suffixes s.now) }
  | drop (c : Caches) : (∀ path e, c.imports.entries.get? path = some e →
      s.caches.imports.entries.get? path = some e) → Step w disk s { s with caches := c }
  | ask (id : Nat) {x : Extraction} {q k} : s.calls.get? id = some x → x.rest = .ask q k →
      Step w disk s { s with calls := s.goOn id x (k ((disk s.now).answer q)) }
  | change (id : Nat) {x : Extraction} {f k} : s.calls.get? id = some x → x.rest = .change f k →
      Step w disk s { s with caches := f s.caches, calls := s.goOn id x (k s.caches) }

end Scene

/-! ### An inquiry among others -/

namespace Inquiry

/-- However an inquiry is interleaved with others from some moment on, it keeps a condition on the
caches that all of them keep, and its result and the moment when it has it satisfy another. -/
def Unfolds (disk : Nat → Volume) (I : Nat → Caches → Prop) :
    Inquiry α → Nat → (α → Nat → Prop) → Prop
  | done a, n, Q => Q a n
  | ask q k, n, Q => ∀ m, n ≤ m → Unfolds disk I (k ((disk m).answer q)) m Q
  | change f k, n, Q => ∀ m, n ≤ m → ∀ c, I m c → I m (f c) ∧ Unfolds disk I (k c) m Q
  | look k, n, Q => ∀ s, Unfolds disk I (k s) n Q
  | pause next, n, Q => ∀ m, n ≤ m → Unfolds disk I next m Q

theorem Unfolds.mono {t : Inquiry α} {Q Q' : α → Nat → Prop} (h : t.Unfolds disk I n Q)
    (hq : ∀ a m, Q a m → Q' a m) : t.Unfolds disk I n Q' := by
  induction t generalizing n with
  | done a => exact hq a n h
  | ask q k ih => exact fun m hm => ih _ (h m hm)
  | change f k ih => exact fun m hm c hc => ⟨(h m hm c hc).1, ih c (h m hm c hc).2⟩
  | look k ih => exact fun s => ih s (h s)
  | pause next ih => exact fun m hm => ih (h m hm)

theorem Unfolds.bind {t : Inquiry α} {f : α → Inquiry β} {Q : β → Nat → Prop}
    (h : t.Unfolds disk I n fun a m => (f a).Unfolds disk I m Q) :
    (t >>= f).Unfolds disk I n Q := by
  change (Inquiry.bind t f).Unfolds disk I n Q
  induction t generalizing n with
  | done a => exact h
  | ask q k ih => exact fun m hm => ih _ (h m hm)
  | change g k ih => exact fun m hm c hc => ⟨(h m hm c hc).1, ih c (h m hm c hc).2⟩
  | look k ih => exact fun s => ih s (h s)
  | pause next ih => exact fun m hm => ih (h m hm)

end Inquiry

/-- Work goes on with its values. -/
theorem Work.unfolds_bind {x : Work α} {f : α → Work β} {Q : Except Failure β → Nat → Prop}
    (h : x.run.Unfolds disk I n fun r m =>
      match r with
      | .ok a => (f a).run.Unfolds disk I m Q
      | .error f => Q (.error f) m) : (x >>= f).run.Unfolds disk I n Q := by
  rw [ExceptT.run_bind]
  refine Inquiry.Unfolds.bind (h.mono ?_)
  rintro (f | a) m hr
  · exact hr
  · exact hr

theorem Work.unfolds_ofInquiry {t : Inquiry α} {Q : Except Failure α → Nat → Prop}
    (h : t.Unfolds disk I n fun a m => Q (.ok a) m) : (ofInquiry t).run.Unfolds disk I n Q :=
  Inquiry.Unfolds.bind h

/-- An entry of the cache: the file had the stamp, and then, or later, was read. -/
def Entered (disk : Nat → Volume) (now : Nat) (path : String) (t : Stamp)
    (statements : List Statement) : Prop :=
  ∃ i, (disk i).stamp path = some t ∧ Shown disk path i now statements

def CacheEntered (disk : Nat → Volume) (now : Nat) (c : Caches) : Prop :=
  c.imports.Holds (Entered disk now)

theorem Shown.mono {b b' e e' : Nat} (h : Shown disk path b e statements) (hb : b' ≤ b)
    (he : e ≤ e') : Shown disk path b' e' statements := by
  obtain ⟨i, text, hbi, hie, htext⟩ := h
  exact ⟨i, text, by omega, by omega, htext⟩

/-- An entry that is met under the file's stamp shows the file at some moment since then. -/
theorem Entered.shown (h : Entered disk m path t statements) (hdisk : Dated disk path)
    (hn : began ≤ n) (hnm : n ≤ m) (ht : (disk n).stamp path = some t) :
    Shown disk path began m statements := by
  obtain ⟨i, hi, j, text, hij, hjm, hread, rfl⟩ := h
  rcases Nat.lt_or_ge j began with hj | hj
  · -- read before the extraction began, so between two moments with the same stamp
    have hsame := (hdisk.between (Nat.le_trans hij (by omega)) (Nat.le_refl n) hi ht).2
    have hsame' := (hdisk.between hij (by omega) hi ht).2
    exact ⟨n, text, hn, hnm, by rw [hsame, ← hsame', hread], rfl⟩
  · exact ⟨j, text, hj, hjm, hread, rfl⟩

/-- What comes of an extraction, where each change of the file gives it a new stamp: statements that
the file had since the extraction began. -/
def Answers (w : Workspace) (suffixes : List String) (disk : Nat → Volume) (path : String)
    (began : Nat) (r : Except Failure (List Statement)) (ended : Nat) : Prop :=
  Dated disk path → isScanned w suffixes path = true → ∀ statements, r = .ok statements →
    Shown disk path began ended statements

theorem unfolds_keepStatements {text : String} (hstamp : ∀ t, stamp = some t →
    ∃ i, i ≤ n ∧ (disk i).stamp path = some t) (hn : began ≤ n)
    (hread : (disk n).read path = .ok text) :
    (Work.ofInquiry (keepStatements path stamp text)).run.Unfolds disk (CacheEntered disk) n
      (Answers w suffixes disk path began) := by
  have hshown : Answers w suffixes disk path began (.ok (extract text)) n := by
    rintro - - _ ⟨⟩
    exact ⟨n, text, hn, Nat.le_refl n, hread, rfl⟩
  cases stamp with
  | none => exact hshown
  | some t =>
    obtain ⟨i, hin, hi⟩ := hstamp t rfl
    intro m hnm c hc
    have hstored := hc.store ⟨i, hi, n, text, hin, hnm, hread, rfl⟩
    refine ⟨hstored, fun hdisk hscanned statements heq => ?_⟩
    exact (hshown hdisk hscanned statements heq).mono (Nat.le_refl _) hnm

theorem unfolds_readStatements
    (hstamp : ∀ t, stamp = some t → ∃ i, i ≤ n ∧ (disk i).stamp path = some t) (hn : began ≤ n) :
    (readStatements path stamp).run.Unfolds disk (CacheEntered disk) n
      (Answers w suffixes disk path began) := by
  have hread : (Work.read? path).run.Unfolds disk (CacheEntered disk) n fun r m =>
      n ≤ m ∧ ∀ text, r = .ok (some text) → (disk m).read path = .ok text := by
    refine Work.unfolds_bind (Work.unfolds_ofInquiry fun m hm => ?_)
    dsimp only [Volume.answer]
    rcases hr : (disk m).read path with (_ | name) | text
    · exact ⟨hm, nofun⟩
    · exact ⟨hm, nofun⟩
    · refine ⟨hm, ?_⟩
      rintro _ ⟨⟩
      exact hr
  refine Work.unfolds_bind (hread.mono ?_)
  rintro (f | _ | text) m ⟨hm, htext⟩
  · exact fun _ _ _ heq => nomatch heq
  · exact fun _ _ _ heq => nomatch heq
  · refine unfolds_keepStatements (fun t ht => ?_) (Nat.le_trans hn hm) (htext text rfl)
    obtain ⟨i, hin, hi⟩ := hstamp t ht
    exact ⟨i, Nat.le_trans hin hm, hi⟩

theorem unfolds_lookUp (hn : began ≤ n) (ht : (disk n).stamp path = some t) :
    (lookUp path t).Unfolds disk (CacheEntered disk) n fun r m =>
      n ≤ m ∧ ∀ statements, r = some statements → Dated disk path →
        Shown disk path began m statements := by
  intro m hm c hc
  exact ⟨hc.afterLookup path t, hm, fun statements hfind hdisk =>
    (hc.find? hfind).shown hdisk hn hm ht⟩

theorem unfolds_importsOf (w : Workspace) (suffixes : List String) (disk : Nat → Volume)
    (path : String) (began : Nat) :
    (importsOf w suffixes path).run.Unfolds disk (CacheEntered disk) began
      (Answers w suffixes disk path began) := by
  rw [importsOf_eq]
  split
  next hnot =>
    intro _ hscanned
    simp [hscanned] at hnot
  next =>
    have hstamp : (Inquiry.stamp path).Unfolds disk (CacheEntered disk) began fun r m =>
        began ≤ m ∧ r = (disk m).stamp path := fun m hm => ⟨hm, rfl⟩
    refine Work.unfolds_bind (Work.unfolds_ofInquiry (hstamp.mono ?_))
    rintro (_ | t) n ⟨hn, ht⟩
    · exact unfolds_readStatements (fun t ht => nomatch ht) hn
    · refine Work.unfolds_bind (Work.unfolds_ofInquiry ((unfolds_lookUp hn ht.symm).mono ?_))
      rintro (_ | statements) m ⟨hm, hfound⟩
      · refine unfolds_readStatements ?_ (Nat.le_trans hn hm)
        rintro _ ⟨⟩
        exact ⟨n, hm, ht.symm⟩
      · rintro hdisk - _ ⟨⟩
        exact hfound statements rfl hdisk

namespace Scene

variable {s s' : Scene} {id now : Nat} {x : Extraction}

/-- An extraction has kept to its time, and whatever is still to come of it is right. -/
structure Underway (w : Workspace) (disk : Nat → Volume) (now : Nat) (x : Extraction) : Prop where
  began : x.began ≤ x.latest
  latest : x.latest ≤ now
  unfolds : x.rest.Unfolds disk (CacheEntered disk) x.latest
    (Answers w x.suffixes disk x.path x.began)

theorem Underway.goOn (h : Underway w disk now x) {rest : Inquiry (Except Failure (List Statement))}
    (hrest : rest.Unfolds disk (CacheEntered disk) now (Answers w x.suffixes disk x.path x.began)) :
    Underway w disk now { x with latest := now, rest } where
  began := Nat.le_trans h.began h.latest
  latest := Nat.le_refl now
  unfolds := hrest

structure Sound (w : Workspace) (disk : Nat → Volume) (s : Scene) : Prop where
  caches : CacheEntered disk s.now s.caches
  calls : ∀ id x, s.calls.get? id = some x → Underway w disk s.now x

/-- One extraction begins or goes on, and the others are left alone. -/
theorem Sound.insert (h : s.Sound w disk) {c : Caches} (hc : CacheEntered disk s.now c)
    (hx : Underway w disk s.now x) (id : Nat) :
    Sound w disk { s with caches := c, calls := s.calls.insert id x } where
  caches := hc
  calls id' x' hget := by
    rw [Table.get?_insert] at hget
    split at hget
    next =>
      cases hget
      exact hx
    next => exact h.calls id' x' hget

theorem Sound.step (h : s.Sound w disk) (hs : Step w disk s s') :
    s'.Sound w disk := by
  cases hs with
  | tick =>
    refine ⟨h.caches.mono ?_, fun id x hget => ?_⟩
    · rintro path t statements ⟨i, hi, hshown⟩
      exact ⟨i, hi, hshown.mono (Nat.le_refl i) (Nat.le_succ s.now)⟩
    · have hx := h.calls id x hget
      exact ⟨hx.began, Nat.le_succ_of_le hx.latest, hx.unfolds⟩
  | begin id path suffixes hnone =>
    exact h.insert h.caches ⟨Nat.le_refl _, Nat.le_refl _, unfolds_importsOf ..⟩ id
  | drop c hsub => exact ⟨h.caches.of_subset hsub, h.calls⟩
  | @ask id x q k hget hrest =>
    have hx := h.calls id x hget
    have hunfolds := hx.unfolds
    rw [hrest] at hunfolds
    exact h.insert h.caches (hx.goOn (hunfolds _ hx.latest)) id
  | @change id x f k hget hrest =>
    have hx := h.calls id x hget
    have hunfolds := hx.unfolds
    rw [hrest] at hunfolds
    obtain ⟨hc, hk⟩ := hunfolds _ hx.latest _ h.caches
    exact h.insert hc (hx.goOn hk) id

theorem Sound.start (size : Int) : Sound w disk { caches := .ofSize size } :=
  ⟨Cache.holds_ofSize size, nofun⟩

theorem sound_of_steps {size : Int}
    (hs : ReflTransGen (Step w disk) { caches := .ofSize size } s) : s.Sound w disk := by
  induction hs with
  | refl => exact .start size
  | tail _ hstep ih => exact ih.step hstep

/-- However extractions are interleaved with each other, with changes of the files, and with
whatever makes room in the cache or clears it: where each change of a file gives it a stamp that it
never had, the statements that an extraction comes to are those of a text that the file had between
its beginning and its end. -/
theorem statements_shown_since_began {size : Int} (id : Nat)
    (hs : ReflTransGen (Step w disk) { caches := .ofSize size } s) (hx : s.calls.get? id = some x)
    (hdisk : Dated disk x.path) (hended : x.rest = .done (.ok statements))
    (hscanned : isScanned w x.suffixes x.path = true) :
    ∃ i text, x.began ≤ i ∧ i ≤ x.latest ∧ (disk i).read x.path = .ok text ∧
      statements = extract text := by
  have hunfolds := ((sound_of_steps hs).calls id x hx).unfolds
  rw [hended] at hunfolds
  exact hunfolds hdisk hscanned statements rfl

/-- Two extractions that began before a file was rewritten: one reads it afterwards and stores what
it read under the old stamp, and the other finds that. -/
theorem statements_shown_since_began_rewritten :
    ∃ s x statements, ReflTransGen
        (Step (.ofRoot "/") (rewritten "a.ts" "import './b'" "import './c'"))
        { caches := .ofSize 8 } s ∧ s.calls.get? 1 = some x ∧ x.began = 0 ∧ x.latest = 1 ∧
      x.rest = .done (.ok statements) ∧ statements.map (·.source) = ["./c"] ∧
      ∃ i text, x.began ≤ i ∧ i ≤ x.latest ∧
        (rewritten "a.ts" "import './b'" "import './c'" i).read x.path = .ok text ∧
        statements = extract text := by
  have steps : ReflTransGen (Step (.ofRoot "/") (rewritten "a.ts" "import './b'" "import './c'"))
      { caches := .ofSize 8 } _ := ReflTransGen.refl
    |>.tail (.begin 0 "/a.ts" [".ts"] rfl)
    |>.tail (.begin 1 "/a.ts" [".ts"] rfl)
    |>.tail (.ask 0 rfl rfl)
    |>.tail (.ask 1 rfl rfl)
    |>.tail (.change 0 rfl rfl)
    |>.tail .tick
    |>.tail (.ask 0 rfl rfl)
    |>.tail (.change 0 rfl rfl)
    |>.tail (.change 1 rfl rfl)
  refine ⟨_, _, extract "import './c'", steps, rfl, rfl, rfl, rfl, by decide +kernel, ?_⟩
  exact statements_shown_since_began 1 steps rfl (dated_rewritten _ _ _ _) rfl rfl

end Scene

end Coselect.Analysis
