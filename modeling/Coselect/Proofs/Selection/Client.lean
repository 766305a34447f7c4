import Coselect.Proofs.Selection.Alone

/-! A client of the selection, which keeps a copy of the records by the updates alone. Each
operation tells all it changed, so the copy is right after every one of them. -/

namespace Coselect.Selection

open Coselect.Graph

/-- What a client may ask for. -/
inductive Operation
  | apply (root : String) (g : DependencyGraph)
  | remove (root : String)
  | clear

namespace Orchestrator

/-- An operation run to its end. -/
def operate (o : Orchestrator) : Operation → Update × Orchestrator
  | .apply root g => o.apply root g
  | .remove root => o.remove root
  | .clear => o.clear

/-- A call that starts in some state, whatever calls are in progress there, and comes to its end
with no step of another call in between. -/
inductive Completes (o : Orchestrator) (root : String) (purpose : Purpose) :
    Update → Orchestrator → Prop
  | intro {task : Nat} {o' : Orchestrator} {c : Call} : o.calls.get? task = none →
      Alone task (o.start task (Path.normalize root) purpose) o' → o'.calls.get? task = some c →
      c.phase = .finished → Completes o root purpose c.update (o'.collect task).2

/-- The removals of some roots, one after the other, and their updates in one. -/
inductive Withdraws : List String → Update → Orchestrator → Update → Orchestrator → Prop
  | nil {u o} : Withdraws [] u o u o
  | cons {root roots u v w o o' o''} : Completes o root .remove v o' →
      Withdraws roots (u.andThen v) o' w o'' → Withdraws (root :: roots) u o w o''

/-- An operation comes to its end with no step of another call in between. -/
inductive Performs (o : Orchestrator) : Operation → Update → Orchestrator → Prop
  | apply {root g u o'} : o.Completes root (.apply g) u o' → Performs o (.apply root g) u o'
  | remove {root u o'} : o.Completes root .remove u o' → Performs o (.remove root) u o'
  | clear {u o'} : Withdraws o.state.roots {} o u o' → Performs o .clear u o'

variable {o o' : Orchestrator} {task : Nat} {root : String} {roots : List String} {purpose : Purpose}
  {u w : Update} {log : List (String × Purpose)} {op : Operation}

/-! ### Updates -/

theorem Completes.fate (h : o.Completes root purpose u o') :
    (∀ path, u.Fate path (o.state.records.get? path) (o'.state.records.get? path)) ∧
      (u.added.Nodup ∧ u.removed.Nodup) ∧ (purpose = .remove → u.added = []) := by
  cases h with
  | @intro task o₁ c hn halone hc hf =>
    have hstart : (o.start task (Path.normalize root) purpose).calls.get? task =
        some { root := Path.normalize root, purpose } := Table.get?_insert_self ..
    obtain ⟨c', hc', hp, ht⟩ := halone.telling hstart (telling_start _ _)
    rw [hc] at hc'
    cases hc'
    exact ⟨ht.fate, ht.nodup, fun hr => (ht.removal (hp.trans hr)).1⟩

theorem Withdraws.fate {b : Table String Record} (h : Withdraws roots u o w o')
    (hu : ∀ path, u.Fate path (b.get? path) (o.state.records.get? path)) (hadded : u.added = [])
    (hremoved : u.removed.Nodup) :
    (∀ path, w.Fate path (b.get? path) (o'.state.records.get? path)) ∧ w.added = [] ∧
      w.removed.Nodup := by
  induction h with
  | nil => exact ⟨hu, hadded, hremoved⟩
  | cons hcall _ ih =>
    obtain ⟨hv, hnodup, hnone⟩ := hcall.fate
    refine ih (fun path => ?_) hadded (hremoved.append hnodup.2 fun path hmem hmem' => ?_)
    · exact (hu path).andThen (hv path) (by simp [hadded]) (by simp [hnone rfl])
    · have hgone := ((hu path).mem_removed_iff.1 hmem).2
      have hthere := ((hv path).mem_removed_iff.1 hmem').1
      simp [hgone] at hthere

theorem Performs.fate (h : o.Performs op u o') :
    (∀ path, u.Fate path (o.state.records.get? path) (o'.state.records.get? path)) ∧
      u.added.Nodup ∧ u.removed.Nodup := by
  cases h with
  | apply hcall | remove hcall => exact ⟨hcall.fate.1, hcall.fate.2.1⟩
  | clear hcalls =>
    obtain ⟨hfate, hadded, hremoved⟩ :=
      hcalls.fate (fun path => .of_empty path _) rfl List.nodup_nil
    exact ⟨hfate, by rw [hadded]; exact List.nodup_nil, hremoved⟩

theorem Performs.tells (h : o.Performs op u o') : u.Tells o.state.records o'.state.records :=
  Update.tells_of_fate h.fate.2.1 h.fate.2.2 h.fate.1

/-! ### Operations with no other call in progress -/

theorem Alone.runs (h : Alone task o o') (run : Runs log o) (hidle : o.IdleBut task) :
    (∃ log', Runs log' o') ∧ o'.IdleBut task := by
  induction h with
  | refl => exact ⟨⟨log, run⟩, hidle⟩
  | @tail o₁ _ _ hs ih =>
    obtain ⟨⟨log₁, run₁⟩, hidle₁⟩ := ih
    cases hc : o₁.calls.get? task with
    | none => simp [step?, hc] at hs
    | some c => exact ⟨⟨_, run₁.step task hc hs⟩, hidle₁.advance (advance_of_step? hc hs)⟩

/-- A call comes to its end when no other is in progress. -/
theorem completes_perform (run : Runs log o) (hidle : o.Idle) (root : String) (purpose : Purpose) :
    o.Completes root purpose (o.perform root purpose).1 (o.perform root purpose).2 ∧
      (∃ log', Runs log' (o.perform root purpose).2) ∧ (o.perform root purpose).2.Idle := by
  have hn := get?_freshCall o
  have hstart := run.start o.freshCall root purpose hn
  have hothers : (o.start o.freshCall (Path.normalize root) purpose).IdleBut o.freshCall := by
    intro t c ht hc
    rw [Orchestrator.start, Table.get?_insert, if_neg (Ne.symm ht)] at hc
    exact hidle t c hc
  obtain ⟨c, hc, hf⟩ := finished_goOn hstart hothers (Table.get?_insert_self ..) (fun _ => le_rfl)
    (length_exchange_le o (Path.normalize root) purpose)
  have halone := alone_goOn o.freshCall (o.enough (Path.normalize root) purpose)
    (o.start o.freshCall (Path.normalize root) purpose)
  obtain ⟨⟨log', run'⟩, hidle'⟩ := halone.runs hstart hothers
  have hupdate : (o.perform root purpose).1 = c.update := by simp [perform, collect, hc]
  refine ⟨hupdate ▸ .intro hn halone hc hf, ⟨log', run'.collect _ hc hf⟩, fun t c' hc' => ?_⟩
  simp only [perform, collect, Table.get?_erase] at hc'
  split at hc'
  next => contradiction
  next ht => exact hidle' t c' ht hc'

theorem withdraws_foldl (run : Runs log o) (hidle : o.Idle) (roots : List String) (u : Update) :
    let r := roots.foldl (fun (u, o) root =>
      let (v, o) := o.remove root
      (u.andThen v, o)) (u, o)
    Withdraws roots u o r.1 r.2 ∧ (∃ log', Runs log' r.2) ∧ r.2.Idle := by
  induction roots generalizing u o log with
  | nil => exact ⟨.nil, ⟨log, run⟩, hidle⟩
  | cons root roots ih =>
    obtain ⟨hcall, ⟨log', run'⟩, hidle'⟩ := completes_perform run hidle root .remove
    obtain ⟨hrest, hruns⟩ := ih run' hidle' (u.andThen (o.remove root).1)
    exact ⟨.cons hcall hrest, hruns⟩

/-- An operation comes to its end when no call is in progress. -/
theorem performs_operate (run : Runs log o) (hidle : o.Idle) (op : Operation) :
    o.Performs op (o.operate op).1 (o.operate op).2 ∧
      (∃ log', Runs log' (o.operate op).2) ∧ (o.operate op).2.Idle := by
  cases op with
  | apply root g =>
    obtain ⟨hcall, hruns⟩ := completes_perform run hidle root (.apply g)
    exact ⟨.apply hcall, hruns⟩
  | remove root =>
    obtain ⟨hcall, hruns⟩ := completes_perform run hidle root .remove
    exact ⟨.remove hcall, hruns⟩
  | clear =>
    obtain ⟨hcalls, hruns⟩ := withdraws_foldl run hidle o.state.roots {}
    exact ⟨.clear hcalls, hruns⟩

/-- An operation, and its update taken in by a client that keeps a copy of the records. -/
def follow (x : Orchestrator × Table String Record) (op : Operation) :
    Orchestrator × Table String Record :=
  let (u, o) := x.1.operate op
  (o, u.onto x.2)

theorem get?_foldl_follow (run : Runs log o) (hidle : o.Idle) {copy : Table String Record}
    (hcopy : ∀ path, copy.get? path = o.state.records.get? path) (ops : List Operation)
    (path : String) :
    (ops.foldl follow (o, copy)).2.get? path =
      (ops.foldl follow (o, copy)).1.state.records.get? path := by
  induction ops generalizing o copy log with
  | nil => exact hcopy path
  | cons op ops ih =>
    obtain ⟨hop, ⟨log', run'⟩, hidle'⟩ := performs_operate run hidle op
    exact ih run' hidle' fun path => (hop.fate.1 path).get?_onto (hcopy path)

/-- The snapshot shows nothing of the state but what the records look up to. -/
theorem snapshot_congr {s s' : State} (h : ∀ path, s.records.get? path = s'.records.get? path) :
    s.snapshot = s'.snapshot :=
  congrArg Json.obj (map_sorted_eq Record.toJson fun path => congrArg _ (h path))

/-- Whatever calls are in progress, an operation that comes to its end on its own tells all it
changed; when none is, every operation comes to its end, and a client that keeps its copy by the
updates alone, from an empty selection on or from any other that it knows, has exactly the
records after each operation. -/
theorem updates_tell_changes (run : Runs log o) :
    (∀ op u o', o.Performs op u o' → u.Tells o.state.records o'.state.records) ∧
    (o.Idle → (∀ op, o.Performs op (o.operate op).1 (o.operate op).2 ∧ (o.operate op).2.Idle) ∧
      ∀ copy : Table String Record, (∀ path, copy.get? path = o.state.records.get? path) →
        ∀ ops : List Operation,
          let r := ops.foldl follow (o, copy)
          (∀ path, r.2.get? path = r.1.state.records.get? path) ∧
            ({ records := r.2 } : State).snapshot = r.1.state.snapshot) := by
  refine ⟨fun op u o' h => h.tells, fun hidle => ⟨fun op => ?_, fun copy hcopy ops => ?_⟩⟩
  · obtain ⟨hop, -, hidle'⟩ := performs_operate run hidle op
    exact ⟨hop, hidle'⟩
  · have hget := get?_foldl_follow run hidle hcopy ops
    exact ⟨hget, snapshot_congr hget⟩

/-- Two roots that import the same file are applied, and one of them is removed: the client is
left with the file for the other alone. -/
theorem updates_tell_changes_shared_file :
    let r := [.apply "/a" (importing "/a" "/b"), .apply "/c" (importing "/c" "/b"),
      .remove "/a"].foldl follow ({}, .empty)
    r.2.keys = ["/b"] ∧ (r.2.get? "/b").map (·.selectedBy) = some ["/c"] ∧
      ({ records := r.2 } : State).snapshot = r.1.state.snapshot := by
  have hidle : ({} : Orchestrator).Idle := fun _ _ h => nomatch h
  have told := (updates_tell_changes .initial).2 hidle
  exact ⟨rfl, rfl, (told.2 .empty (fun _ => rfl) _).2⟩

end Orchestrator

end Coselect.Selection
