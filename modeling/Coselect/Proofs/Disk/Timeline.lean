import Coselect.Disk.Query

/-! A disk as it is from moment to moment. Where every change of a file gives it a stamp that it
never had before, the file has each stamp for one stretch of time and reads the same throughout. -/

namespace Coselect.Disk

variable {disk : Nat → Volume} {path : String} {t : Stamp} {i j k : Nat}

/-- From one moment to the next a file stays as it is, or it is gone, or it has a stamp that it
never had before. -/
def Dated (disk : Nat → Volume) (path : String) : Prop :=
  ∀ n, (disk (n + 1)).stamp path = (disk n).stamp path ∧
      (disk (n + 1)).read path = (disk n).read path ∨
    ∀ t, (disk (n + 1)).stamp path = some t → ∀ m ≤ n, (disk m).stamp path ≠ some t

/-- Whenever a file has one stamp it reads the same. -/
def Versioned (disk : Nat → Volume) (path : String) : Prop :=
  ∀ i j t, (disk i).stamp path = some t → (disk j).stamp path = some t →
    (disk j).read path = (disk i).read path

theorem Dated.between (h : Dated disk path) (hij : i ≤ j) (hjk : j ≤ k)
    (hi : (disk i).stamp path = some t) (hk : (disk k).stamp path = some t) :
    (disk j).stamp path = some t ∧ (disk j).read path = (disk i).read path := by
  induction k generalizing j with
  | zero =>
    obtain rfl : j = i := by omega
    exact ⟨hi, rfl⟩
  | succ n ih =>
    rcases Nat.lt_or_ge n i with hni | hin
    · obtain rfl : j = i := by omega
      exact ⟨hi, rfl⟩
    rcases h n with ⟨hstamp, hread⟩ | hnew
    · rw [hstamp] at hk
      rcases Nat.lt_or_ge n j with hnj | hjn
      · obtain rfl : j = n + 1 := by omega
        rw [hstamp, hread]
        exact ih hin (Nat.le_refl n) hk
      · exact ih hij hjn hk
    · exact absurd hi (hnew t hk i hin)

theorem Dated.versioned (h : Dated disk path) : Versioned disk path := by
  intro i j t hi hj
  rcases Nat.le_total i j with hij | hji
  · exact (h.between hij (Nat.le_refl j) hi hj).2
  · exact (h.between hji (Nat.le_refl i) hj hi).2.symm

/-! ### One file -/

/-- A disk with one file. -/
def oneFile (name text : String) (modified : Int) : Volume where
  tree := .directory [(name, .file (.text text) modified)]

/-- A path leads to the file, to the directory it is in, or nowhere, whatever is in the file. -/
theorem follow_oneFile (name : String) (parts : List String) :
    ∃ r, (∀ text modified, (oneFile name text modified).tree.follow [] parts = r) ∧
      ∀ place, r = .ok place → place = [] ∨ place = [name] := by
  induction parts with
  | nil => exact ⟨.ok [], fun _ _ => rfl, fun _ h => .inl (Except.ok.inj h).symm⟩
  | cons part parts ih =>
    simp only [oneFile, Tree.follow, List.reverse_nil, Tree.find?, List.drop_nil, List.lookup_cons,
      List.lookup_nil]
    split
    next => exact ih
    split
    next => exact ih
    cases faultOfName? part with
    | some o => exact ⟨.error o, fun _ _ => rfl, nofun⟩
    | none =>
      cases hname : part == name with
      | false => exact ⟨.error .missing, fun _ _ => by simp, nofun⟩
      | true =>
        rw [beq_iff_eq] at hname
        subst hname
        cases parts with
        | nil => exact ⟨.ok [part], fun _ _ => rfl, fun _ h => .inr (Except.ok.inj h).symm⟩
        | cons next parts =>
          refine ⟨.error .notDirectory, fun _ _ => ?_, nofun⟩
          simp [Tree.follow, Tree.find?, Tree.child?]

theorem at?_oneFile (name path : String) :
    (∀ text modified, (oneFile name text modified).tree.at? path = none) ∨
      (∀ text modified, (oneFile name text modified).tree.at? path =
        some (.directory [(name, .file (.text text) modified)])) ∨
      ∀ text modified, (oneFile name text modified).tree.at? path =
        some (.file (.text text) modified) := by
  unfold Tree.at? Tree.placeOf
  cases faultOfPath? path with
  | some o => exact .inl fun _ _ => rfl
  | none =>
    obtain ⟨r, hr, hplace⟩ := follow_oneFile name (Text.split '/' path)
    simp only [hr]
    cases r with
    | error o => exact .inl fun _ _ => rfl
    | ok place =>
      rcases hplace place rfl with rfl | rfl
      · exact .inr (.inl fun _ _ => rfl)
      · exact .inr (.inr fun _ _ => by simp [oneFile, Tree.find?, Tree.child?])

/-- A file that is rewritten once. -/
def rewritten (name before after : String) : Nat → Volume
  | 0 => oneFile name before 0
  | _ + 1 => oneFile name after 1

theorem dated_rewritten (name before after path : String) :
    Dated (rewritten name before after) path := by
  rintro (_ | n)
  · rcases at?_oneFile name path with h | h | h
    · exact .inl (by simp [rewritten, Volume.stamp, Volume.read, h])
    · exact .inl (by simp [rewritten, Volume.stamp, Volume.read, h])
    · refine .inr fun t ht m hm => ?_
      obtain rfl := Nat.le_zero.1 hm
      simp only [rewritten, Volume.stamp, h, Option.map_some, Option.some.injEq] at ht ⊢
      subst ht
      simp
  · exact .inl ⟨rfl, rfl⟩

/-! ### A mapping file -/

/-- Two files, of which the first may import the second, next to a mapping file with an alias. -/
def mapped (name statement : String) : Volume where
  tree := .directory
    [("tsconfig.json", .file (.text ("\x7b\"compilerOptions\": \x7b\"paths\": \x7b\"" ++ name ++
        "\": [\"*\"]\x7d\x7d\x7d")) 0),
      ("a.ts", .file (.text statement) 0), ("b.ts", .file (.text "") 0)]

/-- An alias that is given another name. -/
def renamed (before after statement : String) : Nat → Volume
  | 0 => mapped before statement
  | _ + 1 => mapped after statement

theorem renamed_eq {before after statement : String} {n : Nat} (hn : 1 ≤ n) :
    renamed before after statement n = mapped after statement := by
  cases n with
  | zero => exact absurd hn (by decide)
  | succ n => rfl

end Coselect.Disk
