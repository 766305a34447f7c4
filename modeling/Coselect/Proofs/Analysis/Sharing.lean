import Coselect.Proofs.Analysis.OnDisk
import Coselect.Proofs.Analysis.Storing

/-! Analyses side by side on one analyzer, while files change and the caches are reset. A load that
is under way at a reset stores what it read when it is done, so what a reset is to drop may come
back. It does not where all that is under way began after the last change; from then on the caches
hold nothing but what the disk has. -/

namespace Coselect.Analysis

open Disk Coselect.Graph Inquiry

/-- An analysis: the moment when it began, and what is still to come of it. -/
structure Member where
  began : Nat
  rest : Inquiry (Except Failure DependencyGraph)

/-- What an analysis came to, if it is at its end. -/
def Member.result? (x : Member) : Option (Except Failure DependencyGraph) :=
  match x.rest with
  | .done r => some r
  | _ => none

theorem Member.result?_eq_some_iff {x : Member} {r : Except Failure DependencyGraph} :
    x.result? = some r ↔ x.rest = .done r := by
  unfold result?
  split
  next heq => simp [heq]
  next hnot => exact ⟨nofun, fun hr => (hnot r hr).elim⟩

/-- The present moment, the caches, and the analyses with their numbers. -/
structure Company where
  now : Nat := 0
  caches : Caches
  members : Table Nat Member := .empty

/-- What may happen next: time goes on to the next disk, an analysis begins, one has its question
answered, one has its turn with the answer and goes on up to the next place where it stands still,
or the caches are reset. -/
inductive Act
  | tick
  | begin (id : Nat) (config : Settings.Config) (root : String) (maxNodes : Nat)
  | reply (id : Nat)
  | turn (id : Nat) (signal : Signal)
  | reset

def Act.isReset : Act → Bool
  | reset => true
  | _ => false

namespace Company

def put (s : Company) (caches : Caches) (id : Nat) (x : Member) : Company :=
  { s with caches, members := s.members.insert id x }

/-- An analysis that was answered waits for its turn. -/
def act (w : Workspace) (disk : Nat → Volume) (s : Company) : Act → Company
  | .tick => { s with now := s.now + 1 }
  | .begin id config root maxNodes =>
    match s.members.get? id with
    | none => s.put s.caches id ⟨s.now, .pause (analyze w config root maxNodes).run⟩
    | some _ => s
  | .reply id =>
    match s.members.get? id with
    | some ⟨began, .ask q k⟩ => s.put s.caches id ⟨began, .pause (k ((disk s.now).answer q))⟩
    | _ => s
  | .turn id signal =>
    match s.members.get? id with
    | some ⟨began, .pause next⟩ =>
      let (rest, caches) := next.settle signal s.caches
      s.put caches id ⟨began, rest⟩
    | _ => s
  | .reset => { s with caches := s.caches.reset }

def after (w : Workspace) (disk : Nat → Volume) (s : Company) (acts : List Act) : Company :=
  acts.foldl (act w disk) s

variable {w : Workspace} {disk : Nat → Volume} {s s' : Company} {a : Act} {id : Nat} {x : Member}

/-- All that an act may come to. -/
inductive Comes (w : Workspace) (disk : Nat → Volume) (s : Company) : Act → Company → Prop
  | still (a : Act) : Comes w disk s a s
  | tick : Comes w disk s .tick { s with now := s.now + 1 }
  | begin {id : Nat} (config : Settings.Config) (root : String) (maxNodes : Nat) :
      s.members.get? id = none → Comes w disk s (.begin id config root maxNodes)
        (s.put s.caches id ⟨s.now, .pause (analyze w config root maxNodes).run⟩)
  | reply {id began : Nat} {q : Query} {k} : s.members.get? id = some ⟨began, .ask q k⟩ →
      Comes w disk s (.reply id) (s.put s.caches id ⟨began, .pause (k ((disk s.now).answer q))⟩)
  | turn {id began : Nat} {next} (signal : Signal) : s.members.get? id = some ⟨began, .pause next⟩ →
      Comes w disk s (.turn id signal)
        (s.put (next.settle signal s.caches).2 id ⟨began, (next.settle signal s.caches).1⟩)
  | reset : Comes w disk s .reset { s with caches := s.caches.reset }

theorem comes_act (w : Workspace) (disk : Nat → Volume) (s : Company) (a : Act) :
    Comes w disk s a (s.act w disk a) := by
  cases a with
  | tick => exact .tick
  | reset => exact .reset
  | begin id config root maxNodes =>
    rw [act]
    split
    next hnone => exact .begin config root maxNodes hnone
    next => exact .still _
  | reply id =>
    rw [act]
    split
    next hget => exact .reply hget
    next => exact .still _
  | turn id signal =>
    rw [act]
    split
    next hget => exact .turn signal hget
    next => exact .still _

/-! ### Step by step -/

section Terms

variable {answers : (q : Query) → q.Answer → Prop} {R : Caches → Caches → Prop}

/-- The terms of those who may meet anything in the caches, and change them in one way only. -/
def keeping (answers : (q : Query) → q.Answer → Prop) (R : Caches → Caches → Prop)
    (hrefl : ∀ c, R c c) : Terms where
  answers
  signals _ := True
  met _ := True
  may f := ∀ c, R c (f c)
  may_id := hrefl

variable {hrefl : ∀ c, R c c} {since : Nat}

theorem leads_settle {α : Type} {t : Inquiry α} {P : α → Prop}
    (htrans : ∀ c₁ c₂ c₃, R c₁ c₂ → R c₂ c₃ → R c₁ c₃) (h : t.Leads (keeping answers R hrefl) P)
    (signal : Signal) (c : Caches) :
    (t.settle signal c).1.Leads (keeping answers R hrefl) P ∧ R c (t.settle signal c).2 := by
  induction t generalizing c with
  | done a => exact ⟨h, hrefl c⟩
  | ask q k ih => exact ⟨h, hrefl c⟩
  | change f k ih =>
    obtain ⟨hleads, hkept⟩ := ih c (h.2 c trivial) (f c)
    exact ⟨hleads, htrans _ _ _ (h.1 c) hkept⟩
  | look k ih => exact ih signal (h signal trivial) c
  | pause next ih => exact ⟨h, hrefl c⟩

/-- The analyses that began since some moment keep to such terms. -/
structure Follows (answers : (q : Query) → q.Answer → Prop) (R : Caches → Caches → Prop)
    (hrefl : ∀ c, R c c) (since : Nat) (s : Company) : Prop where
  began : ∀ id x, s.members.get? id = some x → x.began ≤ s.now
  leads : ∀ id x, s.members.get? id = some x → since ≤ x.began →
    x.rest.Leads (keeping answers R hrefl) fun _ => True

theorem Follows.put (h : s.Follows answers R hrefl since) {began : Nat}
    {rest : Inquiry (Except Failure DependencyGraph)} (hbegan : began ≤ s.now)
    (hrest : since ≤ began → rest.Leads (keeping answers R hrefl) fun _ => True) (c : Caches)
    (id : Nat) : (s.put c id ⟨began, rest⟩).Follows answers R hrefl since := by
  constructor
  case began =>
    intro id' x' hget
    rw [Company.put, Table.get?_insert] at hget
    split at hget
    next =>
      cases hget
      exact hbegan
    next => exact h.began id' x' hget
  case leads =>
    intro id' x' hget
    rw [Company.put, Table.get?_insert] at hget
    split at hget
    next =>
      cases hget
      exact hrest
    next => exact h.leads id' x' hget

variable (htrans : ∀ c₁ c₂ c₃, R c₁ c₂ → R c₂ c₃ → R c₁ c₃)
  (hanalyze : ∀ config root maxNodes,
    (analyze w config root maxNodes).run.Leads (keeping answers R hrefl) fun _ => True)

include htrans hanalyze

theorem Follows.act (h : s.Follows answers R hrefl since)
    (hanswers : since ≤ s.now → ∀ q, answers q ((disk s.now).answer q)) (a : Act) :
    (s.act w disk a).Follows answers R hrefl since := by
  have hcomes := comes_act w disk s a
  generalize s.act w disk a = s' at hcomes ⊢
  cases hcomes with
  | still => exact h
  | tick => exact ⟨fun id x hget => Nat.le_succ_of_le (h.began id x hget), h.leads⟩
  | reset => exact ⟨h.began, h.leads⟩
  | begin config root maxNodes _ =>
    refine h.put (Nat.le_refl _) (fun _ => ?_) s.caches _
    exact hanalyze config root maxNodes
  | reply hget =>
    have hbegan := h.began _ _ hget
    refine h.put hbegan (fun hsince => ?_) s.caches _
    exact h.leads _ _ hget hsince _ (hanswers (Nat.le_trans hsince hbegan) _)
  | @turn id began next signal hget =>
    refine h.put (h.began _ _ hget) (fun hsince => ?_) _ _
    exact (leads_settle (t := next) htrans (h.leads _ _ hget hsince) signal s.caches).1

theorem Follows.after (h : s.Follows answers R hrefl since)
    (hanswers : ∀ n, since ≤ n → ∀ q, answers q ((disk n).answer q)) (acts : List Act) :
    (s.after w disk acts).Follows answers R hrefl since := by
  induction acts generalizing s with
  | nil => exact h
  | cons a acts ih => exact ih (h.act htrans hanalyze (hanswers _) a)

omit hanalyze in
/-- Where all analyses keep to the terms, so does every act but a reset. -/
theorem Follows.caches (h : s.Follows answers R hrefl 0) (ha : a.isReset = false) :
    R s.caches (s.act w disk a).caches := by
  have hcomes := comes_act w disk s a
  generalize s.act w disk a = s' at hcomes ⊢
  cases hcomes with
  | reset => exact nomatch ha
  | @turn id began next signal hget =>
    exact (leads_settle (t := next) htrans (h.leads _ _ hget (Nat.zero_le _)) signal s.caches).2
  | _ => exact hrefl _

/-- An analyzer in use keeps to the terms where a reset does. -/
theorem Follows.caches_after (h : s.Follows answers R hrefl 0)
    (hanswers : ∀ n q, answers q ((disk n).answer q)) (hreset : ∀ c, R c c.reset) (acts : List Act) :
    R s.caches (s.after w disk acts).caches := by
  induction acts generalizing s with
  | nil => exact hrefl _
  | cons a acts ih =>
    refine htrans _ _ _ ?_ (ih (h.act htrans hanalyze (fun _ => hanswers _) a))
    cases a with
    | reset => exact hreset _
    | _ => exact h.caches htrans rfl

end Terms

/-! ### One analysis among them -/

section Tracked

variable {e : Surroundings} {Q : Except Failure DependencyGraph → Prop}

/-- What is still to come of an analysis satisfies a condition, whatever its surroundings do. -/
def Tracked (e : Surroundings) (Q : Except Failure DependencyGraph → Prop) (id : Nat) (s : Company) :
    Prop :=
  ∃ x c, s.members.get? id = some x ∧ x.rest.Ends e c (fun r _ => Q r) ∧ e.others c s.caches

theorem Tracked.act (h : Tracked e Q id s)
    (htrans : ∀ c₁ c₂ c₃, e.others c₁ c₂ → e.others c₂ c₃ → e.others c₁ c₃)
    (hrefl : ∀ c, e.others c c) (hsignals : ∀ signal, e.signals signal)
    (hanswers : ∀ q, e.answers q ((disk s.now).answer q))
    (hcaches : e.others s.caches (s.act w disk a).caches) : Tracked e Q id (s.act w disk a) := by
  obtain ⟨x, c, hx, hends, hothers⟩ := h
  have hcomes := comes_act w disk s a
  generalize s.act w disk a = s' at hcomes hcaches ⊢
  have hothers' := htrans _ _ _ hothers hcaches
  have hput : ∀ id' x' c' c₀, (id = id' → x'.rest.Ends e c₀ (fun r _ => Q r) ∧ e.others c₀ c') →
      e.others c c' → Tracked e Q id (s.put c' id' x') := by
    intro id' x' c' c₀ hmine hothers'
    by_cases hid : id = id'
    · obtain ⟨hends', hlast⟩ := hmine hid
      exact ⟨x', c₀, by rw [hid, put, Table.get?_insert_self], hends', hlast⟩
    · exact ⟨x, c, by rw [put, Table.get?_insert, if_neg (Ne.symm hid), hx], hends, hothers'⟩
  cases hcomes with
  | still => exact ⟨x, c, hx, hends, hothers⟩
  | tick => exact ⟨x, c, hx, hends, hothers⟩
  | reset => exact ⟨x, c, hx, hends, hothers'⟩
  | begin config root maxNodes hnone =>
    refine hput _ _ _ c ?_ hothers
    rintro rfl
    exact nomatch hx.symm.trans hnone
  | reply hget =>
    refine hput _ _ _ c ?_ hothers
    rintro rfl
    cases hx.symm.trans hget
    exact ⟨hends _ (hanswers _), hothers⟩
  | @turn id' began next signal hget =>
    refine hput _ _ _ (next.settle signal s.caches).2 ?_ hothers'
    rintro rfl
    cases hx.symm.trans hget
    exact ⟨(hends s.caches hothers).settle (hsignals signal), hrefl _⟩

theorem tracked_begin {config : Settings.Config} {root : String} {maxNodes : Nat}
    (hrefl : ∀ c, e.others c c) (hnone : s.members.get? id = none)
    (h : ∀ c, e.others s.caches c → (analyze w config root maxNodes).run.Ends e c fun r _ => Q r) :
    Tracked e Q id (s.act w disk (.begin id config root maxNodes)) := by
  rw [Company.act, hnone]
  exact ⟨⟨s.now, .pause (analyze w config root maxNodes).run⟩, s.caches, Table.get?_insert_self .., h,
    hrefl _⟩

theorem Tracked.result {r : Except Failure DependencyGraph} (h : Tracked e Q id s)
    (hr : (s.members.get? id).bind Member.result? = some r) : Q r := by
  obtain ⟨x, c, hx, hends, -⟩ := h
  rw [hx] at hr
  rw [Member.result?_eq_some_iff.1 hr] at hends
  exact hends

end Tracked

/-! ### What analyses store -/

/-- The caches hold nothing but what would be loaded from one disk. -/
abbrev OfDisk (d : Volume) (w : Workspace) : Caches → Prop :=
  Drawn (rulesOn d w) (Told (aliasesOn d w)) (Stocked fun _ => d)

/-- The surroundings on a disk where the caches change in one way only. -/
def among (d : Volume) (R : Caches → Caches → Prop) : Surroundings where
  answers q r := r = d.answer q
  others := R

theorem Kept.refl {I : Caches → Prop} (c : Caches) : Kept I c c := fun hc => ⟨hc, fun _ => id⟩

theorem Kept.trans {I : Caches → Prop} (c₁ c₂ c₃ : Caches) (h : Kept I c₁ c₂) (h' : Kept I c₂ c₃) :
    Kept I c₁ c₃ := fun hc => by
  obtain ⟨hc₂, hsame⟩ := h hc
  obtain ⟨hc₃, hsame'⟩ := h' hc₂
  exact ⟨hc₃, fun m hm => hsame' m (hsame m hm)⟩

/-- The cache of statements keeps its size. -/
theorem stores_maxSize : (keeping (fun _ _ => True)
    (fun c c' => c'.imports.maxSize = c.imports.maxSize) fun _ => rfl).Stores w where
  aliases := ((confined_readMapping _ _).leads fun _ => False.elim).mono fun _ _ _ _ _ => rfl
  rules := ((confined_readRules w).leads fun _ => False.elim).mono fun _ _ _ _ _ => rfl
  makeRoom c := by
    unfold Caches.makeRoom
    split <;> rfl
  patternRules _ _ _ _ := rfl
  lookUp _ _ _ := Imports.Cache.maxSize_afterLookup
  statements _ _ _ _ _ _ := Imports.Cache.maxSize_store

/-- What is stored is what the disk has. -/
theorem stores_drawn (d : Volume) : (keeping (fun q r => r = d.answer q)
    (Kept (OfDisk d w)) Kept.refl).Stores w := by
  have hd : (keeping (fun q r => r = d.answer q) (Kept (OfDisk d w)) Kept.refl).Shows d :=
    fun _ _ => id
  have hsteady : ∀ patterns, Steady ((Surroundings.still d).under (OfDisk d w)) (rulesOn d w)
      patterns (rulesOn d w) (compiled patterns) := steady_drawn _
  constructor
  case aliases =>
    refine (gives_readAliases (hd.tells w)).leads fun m hm c hc => ⟨hc.withAliases (.of_eq hm), ?_⟩
    intro a ha
    exact congrArg some (Except.ok.inj (hm.symm.trans (hc.aliases a ha)))
  case rules =>
    exact (gives_readRules (hd.tells w)).leads fun r hr c hc =>
      ⟨(hsteady {}).load r rfl hr c hc, fun _ => id⟩
  case makeRoom =>
    refine fun c hc => ⟨(hsteady {}).makeRoom rfl c hc, fun m hm => ?_⟩
    unfold Caches.makeRoom
    split <;> exact hm
  case patternRules =>
    refine fun items rules hrules c hc => ⟨(hsteady { items }).keep rules rfl ?_ c hc, fun _ => id⟩
    rw [compiled, hrules]
  case lookUp => exact fun path t c hc => ⟨hc.afterLookup path t, fun _ => id⟩
  case statements =>
    exact fun path t text ht htext c hc =>
      ⟨hc.store ⟨0, text, ht.symm, htext.symm, rfl⟩, fun _ => id⟩

/-! ### Resets -/

def ofSize (size : Int) : Company := { caches := .ofSize size }

variable {d : Volume} {n₀ : Nat} {size : Int}

/-- The disk is as it was at some moment, the caches hold nothing but what it has, and no analysis
brings anything else in. -/
structure Current (d : Volume) (w : Workspace) (n₀ : Nat) (s : Company) : Prop where
  now : n₀ ≤ s.now
  caches : OfDisk d w s.caches
  members : s.Follows (fun q r => r = d.answer q)
    (Kept (OfDisk d w)) Kept.refl 0

theorem now_le_act (a : Act) : s.now ≤ (s.act w disk a).now := by
  have hcomes := comes_act w disk s a
  generalize s.act w disk a = s' at hcomes ⊢
  cases hcomes with
  | tick => exact Nat.le_succ _
  | _ => exact Nat.le_refl _

theorem Current.act_caches (h : Current d w n₀ s) (ha : a.isReset = false) :
    Kept (OfDisk d w) s.caches
      (s.act w disk a).caches :=
  h.members.caches Kept.trans ha

section

variable (hdisk : ∀ n, n₀ ≤ n → disk n = d)

include hdisk

theorem Current.act (h : Current d w n₀ s) (a : Act) : Current d w n₀ (s.act w disk a) where
  now := Nat.le_trans h.now (now_le_act a)
  caches := by
    cases ha : a.isReset with
    | false => exact ((h.act_caches ha) h.caches).1
    | true =>
      cases a with
      | reset => exact h.caches.reset nofun Stocked.clear
      | _ => exact nomatch ha
  members := by
    refine h.members.act Kept.trans (stores_drawn d).leads_analyze (fun _ q => ?_) a
    rw [hdisk _ h.now]

theorem Current.after (h : Current d w n₀ s) (acts : List Act) :
    Current d w n₀ (s.after w disk acts) := by
  induction acts generalizing s with
  | nil => exact h
  | cons a acts ih => exact ih (h.act hdisk a)

/-- A reset drops all that was read before the disk was as it is, where all that is under way began
since. -/
theorem current_reset (hsize : 1 ≤ size) (acts : List Act)
    (hnow : n₀ ≤ ((ofSize size).after w disk acts).now)
    (hunderway : ∀ x ∈ ((ofSize size).after w disk acts).members.values,
      n₀ ≤ x.began ∨ x.result?.isSome) :
    Current d w n₀ (((ofSize size).after w disk acts).act w disk .reset) := by
  have hroom : ((ofSize size).after w disk acts).caches.imports.maxSize = size := by
    have hstart : (ofSize size).Follows (fun _ _ => True)
        (fun c c' => c'.imports.maxSize = c.imports.maxSize) (fun _ => rfl) 0 := ⟨nofun, nofun⟩
    exact hstart.caches_after (fun _ _ _ h h' => h'.trans h) stores_maxSize.leads_analyze
      (fun _ _ => trivial) (fun _ => rfl) acts
  have hfollows : ((ofSize size).after w disk acts).Follows (fun q r => r = d.answer q)
      (Kept (OfDisk d w)) Kept.refl n₀ := by
    have hstart : (ofSize size).Follows (fun q r => r = d.answer q)
        (Kept (OfDisk d w)) Kept.refl n₀ :=
      ⟨nofun, nofun⟩
    refine hstart.after Kept.trans (stores_drawn d).leads_analyze (fun n hn q => ?_) acts
    rw [hdisk n hn]
  refine ⟨hnow, drawn_reset (hroom.symm ▸ hsize) _, hfollows.began, fun id x hget _ => ?_⟩
  rcases hunderway x (Table.mem_values_iff.2 ⟨id, hget⟩) with hbegan | hdone
  · exact hfollows.leads id x hget hbegan
  · obtain ⟨r, hr⟩ := Option.isSome_iff_exists.1 hdone
    rw [Member.result?_eq_some_iff.1 hr]
    exact trivial

variable {config : Settings.Config} {root : String} {maxNodes : Nat} {acts : List Act}
  {r : Except Failure DependencyGraph} {p : Settings.Policy} {g : DependencyGraph} {v : String}

/-- Among those that bring in nothing else, an analysis comes to what it would in surroundings that
change the caches in the same way. -/
theorem Current.result (h : Current d w n₀ s) {R : Caches → Caches → Prop}
    {Q : Except Failure DependencyGraph → Prop} (hrefl : ∀ c, R c c)
    (htrans : ∀ c₁ c₂ c₃, R c₁ c₂ → R c₂ c₃ → R c₁ c₃)
    (hcaches : ∀ s, Current d w n₀ s → ∀ a ∈ acts, R s.caches (s.act w disk a).caches)
    (hends : ∀ c, R s.caches c →
      (analyze w config root maxNodes).run.Ends (among d R) c fun r _ => Q r)
    (hnone : s.members.get? id = none)
    (hr : (((s.act w disk (.begin id config root maxNodes)).after w disk acts).members.get? id).bind
      Member.result? = some r) : Q r := by
  have hafter : ∀ s, Current d w n₀ s → Tracked (among d R) Q id s →
      Tracked (among d R) Q id (s.after w disk acts) := by
    clear hr
    intro s hs ht
    induction acts generalizing s with
    | nil => exact ht
    | cons a acts ih =>
      refine ih (fun s hs a ha => hcaches s hs a (List.mem_cons_of_mem _ ha)) _ (hs.act hdisk a) ?_
      refine ht.act htrans hrefl (fun _ => trivial) (fun q => ?_)
        (hcaches s hs a (List.mem_cons_self ..))
      rw [hdisk _ hs.now]
      rfl
  exact (hafter _ (h.act hdisk _) (tracked_begin hrefl hnone hends)).result hr

/-- An analysis that begins goes on only with accepted files. -/
theorem Current.accepted (h : Current d w n₀ s) (hnone : s.members.get? id = none)
    (hr : (((s.act w disk (.begin id config root maxNodes)).after w disk acts).members.get? id).bind
      Member.result? = some (.ok g)) (hp : config.policy = .ok p) (hv : v ∈ g.nodes.keys)
    (hne : v ≠ Path.normalize root) :
    verdict w p.exclusions (rulesOn d w) (compiled p.exclusions.patterns) v = .ok none := by
  let R : Caches → Caches → Prop := fun c c' => OfDisk d w c → OfDisk d w c'
  let Q : Except Failure DependencyGraph → Prop := fun r => ∀ g, r = .ok g → ∀ v ∈ g.nodes.keys,
    v ≠ Path.normalize root →
      verdict w p.exclusions (rulesOn d w) (compiled p.exclusions.patterns) v = .ok none
  have hends : ∀ c, R s.caches c →
      (analyze w config root maxNodes).run.Ends (among d R) c fun r _ => Q r := by
    intro c hc
    have hshows : ((among d R).under (OfDisk d w)).Shows d := fun _ _ h => h
    have hfooting := footing_drawn (n := 0) (p := p) hshows (fun _ _ _ _ _ _ => rfl) rfl
      ((gives_loadAliases_told (hshows.tells w)).leads trivial)
    have hends := (hfooting.leads_analyze hp root maxNodes).ends (fun _ _ h => h) (hc h.caches)
    exact hends.mono fun _ _ h g hg => (h.1 g hg).2
  exact h.result hdisk (R := R) (Q := Q) (fun _ h => h) (fun _ _ _ h h' => h' ∘ h)
    (fun s hs a _ _ => (hs.act hdisk a).caches) hends hnone hr g rfl v hv hne

/-- Without a reset while it runs, it comes to the graph of its root, unless it is stopped. -/
theorem Current.expected (h : Current d w n₀ s) (hnone : s.members.get? id = none)
    (hresets : ∀ a ∈ acts, a.isReset = false)
    (hr : (((s.act w disk (.begin id config root maxNodes)).after w disk acts).members.get? id).bind
      Member.result? = some r) : Expected (fun _ => True) (graphOn d w config root maxNodes) r := by
  refine h.result hdisk Kept.refl Kept.trans (fun s hs a ha => hs.act_caches (hresets a ha))
    (fun c hc => ?_) hnone hr
  have hends : (analyze w config root maxNodes).run.Ends (among d (Kept (OfDisk d w))) c fun r c' =>
      OfDisk d w c' ∧ Expected (fun _ => True) (graphOn d w config root maxNodes) r :=
    ends_analyze_graphOn (n := 0) (fun _ _ h => h) (fun _ _ _ _ _ _ => rfl) rfl rfl
      (fun _ _ h => h) (hc h.caches).1
  exact hends.mono fun _ _ h => h.2

end

/-- What an analysis comes to that begins now, if some acts bring it to its end. -/
def outcome? (w : Workspace) (disk : Nat → Volume) (s : Company) (id : Nat)
    (config : Settings.Config) (root : String) (maxNodes : Nat) (acts : List Act) :
    Option (Except Failure DependencyGraph) :=
  (((s.act w disk (.begin id config root maxNodes)).after w disk acts).members.get? id).bind
    Member.result?

/-- After a reset, where the disk is as it is since before all that was under way then began, the
caches hold nothing but what the disk has, whatever comes next. An analysis that begins then goes on
only with files that the ignore files and patterns of that disk accept; and unless there is another
reset while it runs, or it is stopped, it comes to the graph of its root on that disk. -/
theorem graph_on_disk_since_reset (hsize : 1 ≤ size) (hdisk : ∀ n, n₀ ≤ n → disk n = d)
    (past later since : List Act) (hnow : n₀ ≤ ((ofSize size).after w disk past).now)
    (hunderway : ∀ x ∈ ((ofSize size).after w disk past).members.values,
      n₀ ≤ x.began ∨ x.result?.isSome) :
    let s := (((ofSize size).after w disk past).act w disk .reset).after w disk later
    OfDisk d w s.caches ∧ ∀ id config root maxNodes r, s.members.get? id = none →
      s.outcome? w disk id config root maxNodes since = some r →
      (∀ p g, config.policy = .ok p → r = .ok g → ∀ v ∈ g.nodes.keys, v ≠ Path.normalize root →
        verdict w p.exclusions (rulesOn d w) (compiled p.exclusions.patterns) v = .ok none) ∧
      ((∀ a ∈ since, a.isReset = false) →
        Expected (fun _ => True) (graphOn d w config root maxNodes) r) := by
  intro s
  have hs : Current d w n₀ s := (current_reset hdisk hsize past hnow hunderway).after hdisk later
  refine ⟨hs.caches, fun id config root maxNodes r hnone hr => ⟨?_, fun hresets => ?_⟩⟩
  · rintro p g hp rfl v hv hne
    exact hs.accepted hdisk hnone hr hp hv hne
  · exact hs.expected hdisk hnone hresets hr

/-- Answers and turns for one analysis after another. -/
def rounds (n id : Nat) : List Act :=
  .turn id {} :: (List.replicate n [.reply id, .turn id {}]).flatten

theorem graph_on_disk_since_reset_renamed :
    let w := Workspace.ofRoot "/"
    let disk := renamed "#/*" "@/*" "import '@/b'"
    let config : Settings.Config := { includeTests := .bool false }
    let s := (ofSize 8).after w disk (.begin 0 config "/a.ts" 10 :: rounds 10 0 ++ [.tick])
    s.caches.aliases.map (·.takes "@/b") = some false ∧
      ∃ g, (s.act w disk .reset).outcome? w disk 1 config "/a.ts" 10 (rounds 14 1) = some (.ok g) ∧
        g.nodes.keys = ["/a.ts", "/b.ts"] ∧
        Expected (fun _ => True) (graphOn (disk 1) w config "/a.ts" 10) (.ok g) := by
  intro w disk config s
  have hdisk : ∀ n, 1 ≤ n → disk n = disk 1 := fun n hn => renamed_eq hn
  obtain ⟨hunderway, hnow, haliases⟩ : (∀ x ∈ s.members.values, 1 ≤ x.began ∨ x.result?.isSome) ∧
      1 ≤ s.now ∧ s.caches.aliases.map (·.takes "@/b") = some false := by decide +kernel
  have hresult : ((s.act w disk .reset).outcome? w disk 1 config "/a.ts" 10 (rounds 14 1)).map
      (fun r => r.toOption.map (·.nodes.keys)) = some (some ["/a.ts", "/b.ts"]) := by decide +kernel
  obtain ⟨r, hr, hgraph⟩ := Option.map_eq_some_iff.1 hresult
  obtain ⟨g, rfl, hkeys⟩ := exists_ok_of_map hgraph
  have hsince := (graph_on_disk_since_reset (by decide) hdisk _ [] (rounds 14 1) hnow hunderway).2
  have hexpected := (hsince 1 config "/a.ts" 10 _ (by decide +kernel) hr).2 (by decide)
  exact ⟨haliases, g, hr, hkeys, hexpected⟩

/-- A load that is under way when the mapping file changes brings back what the reset drops: it read
the file before, and stores the mapping after the reset. -/
theorem stale_aliases_after_reset :
    let w := Workspace.ofRoot "/"
    let disk := renamed "#/*" "@/*" "import '@/b'"
    let config : Settings.Config := { includeTests := .bool false }
    ¬ ∀ (past later since : List Act) r,
      let s := (ofSize 8).after w disk past
      let s' := (s.act w disk .reset).after w disk later
      (∀ n, s.now ≤ n → disk n = disk s.now) → (∀ a ∈ later ++ since, a.isReset = false) →
      s'.members.get? 1 = none → s'.outcome? w disk 1 config "/a.ts" 10 since = some r →
      Expected (fun _ => True) (graphOn (disk s.now) w config "/a.ts" 10) r := by
  intro w disk config h
  let past : List Act :=
    [.begin 0 config "/a.ts" 10, .turn 0 {}, .reply 0, .turn 0 {}, .reply 0, .tick]
  let s := (ofSize 8).after w disk past
  let s' := (s.act w disk .reset).after w disk [.turn 0 {}]
  have hnow : s.now = 1 := by decide +kernel
  have hresult : (s'.outcome? w disk 1 config "/a.ts" 10 (rounds 9 1)).map (fun r =>
      r.toOption.map fun g => (g.nodes.keys, g.timedOut, g.cancelled)) =
        some (some (["/a.ts"], false, false)) := by decide +kernel
  obtain ⟨r, hr, hgraph⟩ := Option.map_eq_some_iff.1 hresult
  obtain ⟨g, rfl, hvalues⟩ := exists_ok_of_map hgraph
  obtain ⟨hkeys, htime, hcancel⟩ : _ ∧ _ ∧ _ := by simpa only [Prod.mk.injEq] using hvalues
  have hexpected := h past [.turn 0 {}] (rounds 9 1) (.ok g) (fun n hn => ?_) (by decide)
    (by decide +kernel) hr
  · have hgraphOn : (graphOn (disk 1) w config "/a.ts" 10).toOption.map (·.nodes.keys) =
        some ["/a.ts", "/b.ts"] := by decide +kernel
    rw [hnow] at hexpected
    rw [hexpected.eq_ok htime hcancel] at hgraphOn
    exact absurd (hkeys.symm.trans (Option.some.inj hgraphOn)) (by decide)
  · rw [hnow] at hn ⊢
    exact renamed_eq hn

end Company

end Coselect.Analysis
