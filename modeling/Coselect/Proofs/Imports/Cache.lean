import Coselect.Imports.Cache
import Coselect.Proofs.Table

/-! What a cache of statements may hold. Nothing comes into it but what is stored; look-ups, making
room and forgetting only take entries away. -/

namespace Coselect.Imports.Cache

variable {τ : Type} {c c' : Cache τ} {path : String} {t : τ} {statements : List Statement}
  {P Q : String → τ → List Statement → Prop}

/-- All entries satisfy a condition. -/
def Holds (P : String → τ → List Statement → Prop) (c : Cache τ) : Prop :=
  ∀ path t statements, c.entries.get? path = some (t, statements) → P path t statements

theorem holds_ofSize (size : Int) : (ofSize size : Cache τ).Holds P := nofun

theorem holds_clear (c : Cache τ) : c.clear.Holds P := nofun

theorem Holds.mono (h : c.Holds P)
    (hPQ : ∀ path t statements, P path t statements → Q path t statements) : c.Holds Q :=
  fun path t statements hget => hPQ path t statements (h path t statements hget)

theorem Holds.of_subset (h : c.Holds P)
    (hsub : ∀ path e, c'.entries.get? path = some e → c.entries.get? path = some e) :
    c'.Holds P :=
  fun path t statements hget => h path t statements (hsub path _ hget)

theorem Holds.insertLast {es : Table String (τ × List Statement)} (h : c.Holds P)
    (hsub : ∀ path e, es.get? path = some e → c.entries.get? path = some e)
    (hnew : P path t statements) :
    Holds P { c with entries := es.insertLast path (t, statements) } := by
  intro path' t' statements' hget
  rw [Table.get?_insertLast] at hget
  split at hget
  next heq =>
    cases hget
    exact heq ▸ hnew
  next => exact h path' t' statements' (hsub path' _ hget)

theorem Holds.store (h : c.Holds P) (hnew : P path t statements) :
    (c.store path t statements).Holds P := by
  unfold Cache.store store?
  split
  next => exact h.insertLast (fun _ _ => id) hnew
  next =>
    split
    next => exact h
    next => exact h.insertLast (fun _ _ => Table.get?_of_get?_drop) hnew

@[simp] theorem maxSize_store : (c.store path t statements).maxSize = c.maxSize := by
  unfold store store?
  split
  next => rfl
  next => split <;> rfl

/-- Storing fails only in a cache that may hold nothing. -/
theorem exists_store? (h : 1 ≤ c.maxSize) (path : String) (t : τ) (statements : List Statement) :
    ∃ c', c.store? path t statements = some c' := by
  unfold store?
  split
  next => exact ⟨_, rfl⟩
  next hfull =>
    split
    next hfew =>
      simp only [Bool.or_eq_true, decide_eq_true_eq, not_or, evicted] at hfull hfew
      omega
    next => exact ⟨_, rfl⟩

variable [DecidableEq τ]

theorem find?_eq_some_iff :
    c.find? path t = some statements ↔ c.entries.get? path = some (t, statements) := by
  unfold find?
  split
  next stored found hget =>
    rw [hget]
    split
    next heq => simp [heq]
    next hne => simp [hne]
  next hget => simp [hget]

theorem Holds.find? (h : c.Holds P) (hfind : c.find? path t = some statements) :
    P path t statements :=
  h path t statements (find?_eq_some_iff.1 hfind)

theorem Holds.afterLookup (h : c.Holds P) (path : String) (t : τ) :
    (c.afterLookup path t).Holds P := by
  unfold Cache.afterLookup
  split
  next statements hfind => exact h.insertLast (fun _ _ => id) (h.find? hfind)
  next =>
    refine h.of_subset fun path' e hget => ?_
    rw [Table.get?_erase] at hget
    split at hget
    next => contradiction
    next => exact hget

@[simp] theorem maxSize_afterLookup : (c.afterLookup path t).maxSize = c.maxSize := by
  unfold afterLookup
  split <;> rfl

end Coselect.Imports.Cache
