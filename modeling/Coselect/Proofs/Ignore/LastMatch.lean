import Coselect.Proofs.Ignore.Rules

/-! Which paths a list of ignore lines leaves out. A path is ignored when the last rule that meets it,
or a directory above it, is not negated. So nothing below an ignored directory comes back, a further
line moves verdicts only the way it is marked, and lines without a rule do not count. -/

namespace Coselect.Ignore

open Text

variable {rules more : Rules} {lines before after : List String} {line path : String}
  {parts dir : List String} {isDirectory : Bool} {r : Rule}

theorem notMem_slash_of_mem_components {part : String} (h : part ∈ Path.components path) :
    '/' ∉ part.toList := by
  obtain ⟨cs, hcs, rfl⟩ := List.mem_map.1 (List.mem_of_mem_filter h)
  rw [String.toList_ofList]
  exact notMem_of_mem_splitAt hcs

/-! ### The rule that decides -/

/-- A rule meets an entry, given by its components from the root. -/
structure Rule.Meets (r : Rule) (parts : List String) (isDirectory : Bool) : Prop where
  kind : r.directoryOnly = true → isDirectory = true
  taken : Glob.matchPath r.items (if r.anchored then join "/" parts else parts.getLastD "") = true

instance : Decidable (r.Meets parts isDirectory) :=
  decidable_of_iff ((r.directoryOnly = true → isDirectory = true) ∧ Glob.matchPath r.items
    (if r.anchored then join "/" parts else parts.getLastD "") = true)
    ⟨fun h => ⟨h.1, h.2⟩, fun h => ⟨h.kind, h.taken⟩⟩

theorem Rule.matchesEntry_iff (hne : parts ≠ []) (hslash : ∀ part ∈ parts, '/' ∉ part.toList) :
    r.matchesEntry (join "/" parts) isDirectory = true ↔ r.Meets parts isDirectory := by
  obtain ⟨front, part, rfl⟩ := (List.eq_nil_or_concat' parts).resolve_left hne
  have hlast : Rule.lastComponent (join "/" (front ++ [part])) = part :=
    lastComponent_join (hslash part (by simp))
  have hkind : (!r.directoryOnly || isDirectory) = true ↔
      (r.directoryOnly = true → isDirectory = true) := by
    cases r.directoryOnly <;> simp
  rw [Rule.matchesEntry, Bool.and_eq_true, hkind, hlast]
  exact ⟨fun h => ⟨h.1, by simpa using h.2⟩, fun h => ⟨h.kind, by simpa using h.taken⟩⟩

/-- The entries that lead to a path are the beginnings of its components. -/
theorem mem_ancestry_iff {e : String × Bool} : e ∈ ancestry path ↔
    ∃ parts, parts ≠ [] ∧ parts <+: Path.components path ∧
      e = (join "/" parts, parts != Path.components path) := by
  have hflag : ∀ parts, parts <+: Path.components path →
      (parts != Path.components path) = decide (parts.length < (Path.components path).length) := by
    intro parts hpre
    rw [Bool.eq_iff_iff, bne_iff_ne, decide_eq_true_iff]
    refine ⟨fun hne => ?_, fun hlt heq => by simp [heq] at hlt⟩
    exact Nat.lt_of_le_of_ne hpre.length_le fun hlen => hne (hpre.eq_of_length hlen)
  constructor
  · intro he
    obtain ⟨i, hi, rfl⟩ := List.mem_map.1 he
    have hi : i < (Path.components path).length := List.mem_range.1 hi
    have hpre := List.take_prefix (i + 1) (Path.components path)
    have hlen : ((Path.components path).take (i + 1)).length = i + 1 := List.length_take_of_le hi
    refine ⟨_, List.ne_nil_of_length_pos (by omega), hpre, ?_⟩
    rw [hflag _ hpre, hlen]
    rfl
  · rintro ⟨parts, hne, hpre, rfl⟩
    have hpos := List.length_pos_of_ne_nil hne
    have hlt : parts.length - 1 < (Path.components path).length :=
      Nat.sub_one_lt_of_le hpos hpre.length_le
    refine List.mem_map.2 ⟨parts.length - 1, List.mem_range.2 hlt, ?_⟩
    rw [hflag _ hpre, Nat.sub_add_cancel hpos]
    exact congrArg (join "/" ·, _) (List.prefix_iff_eq_take.1 hpre).symm

namespace Rules

/-- The last rule that meets an entry is not negated. -/
def Drops (rules : Rules) (parts : List String) (isDirectory : Bool) : Prop :=
  ∃ before r after, rules = before ++ r :: after ∧ r.Meets parts isDirectory ∧ r.negated = false ∧
    ∀ r' ∈ after, ¬ r'.Meets parts isDirectory

theorem last?_eq_some_iff : rules.last? path isDirectory = some r ↔
    r.matchesEntry path isDirectory = true ∧ ∃ before after, rules = before ++ r :: after ∧
      ∀ r' ∈ after, r'.matchesEntry path isDirectory = false := by
  rw [last?, List.find?_eq_some_iff_append]
  refine and_congr_right fun _ => ⟨?_, ?_⟩
  · rintro ⟨as, bs, hrev, hnone⟩
    refine ⟨bs.reverse, as.reverse, ?_, fun r' hr' => ?_⟩
    · rw [← List.reverse_reverse rules, hrev]
      simp
    · simpa using hnone r' (List.mem_reverse.1 hr')
  · rintro ⟨before, after, rfl, hnone⟩
    exact ⟨after.reverse, before.reverse, by simp, by simpa using hnone⟩

theorem decides_iff_last? : rules.decides path isDirectory = true ↔
    ∃ r, rules.last? path isDirectory = some r ∧ r.negated = false := by
  unfold decides last?
  cases rules.reverse.find? (·.matchesEntry path isDirectory) <;> simp

theorem decides_join_iff (hne : parts ≠ []) (hslash : ∀ part ∈ parts, '/' ∉ part.toList) :
    rules.decides (join "/" parts) isDirectory = true ↔ rules.Drops parts isDirectory := by
  have hmeets : ∀ r : Rule, r.matchesEntry (join "/" parts) isDirectory = true ↔
      r.Meets parts isDirectory := fun r => Rule.matchesEntry_iff hne hslash
  have hnot : ∀ r : Rule, r.matchesEntry (join "/" parts) isDirectory = false ↔
      ¬ r.Meets parts isDirectory := fun r => by rw [← hmeets, Bool.not_eq_true]
  simp only [decides_iff_last?, last?_eq_some_iff, hmeets, hnot, Drops]
  constructor
  · rintro ⟨r, ⟨hr, before, after, hrules, hafter⟩, hneg⟩
    exact ⟨before, r, after, hrules, hr, hneg, hafter⟩
  · rintro ⟨before, r, after, hrules, hr, hneg, hafter⟩
    exact ⟨r, ⟨hr, before, after, hrules, hafter⟩, hneg⟩

/-- A path is ignored when the path itself or a directory above it is dropped. -/
theorem ignores_iff_exists_drops : rules.ignores path = true ↔
    ∃ parts, parts ≠ [] ∧ parts <+: Path.components path ∧
      rules.Drops parts (parts != Path.components path) := by
  have hdrops : ∀ parts, parts ≠ [] → parts <+: Path.components path → ∀ isDirectory,
      (rules.decides (join "/" parts) isDirectory = true ↔ rules.Drops parts isDirectory) :=
    fun parts hne hpre _ => decides_join_iff hne fun part hpart =>
      notMem_slash_of_mem_components (hpre.subset hpart)
  rw [ignores_iff]
  constructor
  · rintro ⟨e, he, hdecides⟩
    obtain ⟨parts, hne, hpre, rfl⟩ := mem_ancestry_iff.1 he
    exact ⟨parts, hne, hpre, (hdrops parts hne hpre _).1 hdecides⟩
  · rintro ⟨parts, hne, hpre, hdrop⟩
    exact ⟨_, mem_ancestry_iff.2 ⟨parts, hne, hpre, rfl⟩, (hdrops parts hne hpre _).2 hdrop⟩

/-- What is below a dropped directory stays ignored, as long as no further rule meets the directory. -/
theorem ignores_of_drops (hdir : dir ≠ []) (hpre : dir <+: Path.components path)
    (hbelow : dir ≠ Path.components path) (hdrops : rules.Drops dir true)
    (hmore : ∀ r ∈ more, ¬ r.Meets dir true) : (rules ++ more).ignores path = true := by
  obtain ⟨before, r, after, rfl, hr, hneg, hafter⟩ := hdrops
  refine ignores_iff_exists_drops.2 ⟨dir, hdir, hpre, ?_⟩
  rw [bne_iff_ne.2 hbelow]
  refine ⟨before, r, after ++ more, by simp, hr, hneg, fun r' hr' => ?_⟩
  exact (List.mem_append.1 hr').elim (hafter r') (hmore r')

/-! ### One line more -/

theorem decides_concat : (rules ++ [r]).decides path isDirectory =
    if r.matchesEntry path isDirectory then !r.negated else rules.decides path isDirectory := by
  rw [decides_append]
  cases h : r.matchesEntry path isDirectory <;> simp [last?, h]

theorem ignores_mono (h : ∀ path isDirectory, rules.decides path isDirectory = true →
    more.decides path isDirectory = true) (hi : rules.ignores path = true) :
    more.ignores path = true := by
  rw [ignores_iff] at hi ⊢
  obtain ⟨e, he, hdecides⟩ := hi
  exact ⟨e, he, h _ _ hdecides⟩

theorem ignores_concat (hneg : r.negated = false) (h : rules.ignores path = true) :
    (rules ++ [r]).ignores path = true := by
  refine ignores_mono (fun path isDirectory hdecides => ?_) h
  rw [decides_concat, hneg, hdecides]
  simp

theorem ignores_of_concat (hneg : r.negated = true) (h : (rules ++ [r]).ignores path = true) :
    rules.ignores path = true := by
  refine ignores_mono (fun path isDirectory hdecides => ?_) h
  rw [decides_concat, hneg] at hdecides
  by_contra hnot
  simp [hnot] at hdecides

end Rules

/-- A line with the mark of negation. -/
def Negated (line : String) : Prop := (trimChars line.toList).head? = some '!'

theorem opened_fst (text : List Char) : (Rule.opened text).1 = true ↔ text.head? = some '!' := by
  rw [List.head?_eq_some_iff]
  unfold Rule.opened
  split
  next negated rest hmark =>
    -- the mark is read off before the backslash, which is dropped either way
    have hnegated : negated = true ↔ ∃ after, text = '!' :: after := by
      split at hmark <;> obtain ⟨rfl, rfl⟩ := Prod.mk.inj hmark
      next after => simp
      next hnot => simpa using hnot
    split <;> exact hnegated

theorem ofLine?_eq_some_iff : Rule.ofLine? line = some r ↔ Rule.ofLine line = .ok (some r) := by
  unfold Rule.ofLine?
  split <;> simp_all

/-- The rule of a line is negated as the line is marked. -/
theorem negated_iff (h : Rule.ofLine line = .ok (some r)) : r.negated = true ↔ Negated line := by
  rw [Negated, ← opened_fst]
  unfold Rule.ofLine at h
  dsimp only at h
  split at h
  next => cases h
  split at h
  next => cases h
  split at h
  next => cases h
  split at h
  next => cases h
  next =>
    obtain rfl := Option.some.inj (Except.ok.inj h)
    rfl

/-- A line that adds no rule: it is blank, or a comment, or its pattern is too costly to match. -/
inductive Idle (line : String) : Prop
  | blank : trimChars line.toList = [] → Idle line
  | comment : (trimChars line.toList).head? = some '#' → Idle line
  | tooCostly {pattern : String} {excess : Glob.Excess} :
      Rule.ofLine line = .error (.tooCostly pattern excess) → Idle line

namespace Rules

theorem add_idle (h : Idle line) (rules : Rules) (rest : List String) :
    rules.add (line :: rest) = rules.add rest := by
  have hnone : (trimChars line.toList).isEmpty || (trimChars line.toList).head? == some '#' →
      Rule.ofLine line = .ok none := fun h => by simp [Rule.ofLine, h]
  cases h with
  | blank hline => simp [add, hnone (by simp [hline])]
  | comment hline => simp [add, hnone (by simp [hline])]
  | tooCostly hline => simp [add, hline]

/-- Lines added in two parts. -/
theorem add_append (rules : Rules) (lines more : List String) :
    rules.add (lines ++ more) = (rules.add lines >>= fun rules => rules.add more) := by
  induction lines generalizing rules with
  | nil => rfl
  | cons line lines ih =>
    rw [List.cons_append, add, add]
    split <;> first | exact ih _ | rfl

theorem foldlM_add (rules : Rules) (batches : List (List String)) :
    batches.foldlM add rules = rules.add batches.flatten := by
  induction batches generalizing rules with
  | nil => rfl
  | cons batch batches ih =>
    rw [List.foldlM_cons, List.flatten_cons, add_append]
    exact bind_congr fun rules => ih rules

end Rules

/-- Legible lines make their rules one behind the other. A path is ignored when the last rule that
meets the path itself, or a directory above it, is not negated; so what is below an ignored directory
stays ignored whatever rules follow that do not meet this directory. A line that is not negated gives
no path back, and a negated one takes none. Idle lines change nothing wherever they stand, and lines
added in batches make what they make at once. -/
theorem last_match_decides (h : ∀ line ∈ lines, Legible line) :
    let rules := Rules.made lines
    Rules.ofLines lines = .ok rules ∧
    (∀ path, rules.ignores path = true ↔ ∃ parts, parts ≠ [] ∧ parts <+: Path.components path ∧
      rules.Drops parts (parts != Path.components path)) ∧
    (∀ path dir, dir ≠ [] → dir <+: Path.components path → dir ≠ Path.components path →
      rules.Drops dir true → ∀ more : Rules, (∀ r ∈ more, ¬ r.Meets dir true) →
        (rules ++ more).ignores path = true) ∧
    (∀ line, Legible line → ∃ rules', Rules.ofLines (lines ++ [line]) = .ok rules' ∧ ∀ path,
      (¬ Negated line → rules.ignores path = true → rules'.ignores path = true) ∧
      (Negated line → rules'.ignores path = true → rules.ignores path = true)) ∧
    (∀ before line after, lines = before ++ after → Idle line →
      Rules.ofLines (before ++ line :: after) = .ok rules) ∧
    ∀ batches : List (List String), batches.flatten = lines →
      batches.foldlM Rules.add [] = .ok rules := by
  intro rules
  have hrules : Rules.ofLines lines = .ok rules := Rules.add_of_legible h []
  refine ⟨hrules, fun path => Rules.ignores_iff_exists_drops, fun path dir hdir hpre hbelow hdrops more =>
    Rules.ignores_of_drops hdir hpre hbelow hdrops, fun line hline => ?_, ?_, ?_⟩
  · have hall : ∀ l ∈ lines ++ [line], Legible l := by
      simpa [or_imp, forall_and] using ⟨h, hline⟩
    have hmade := (Rules.add_of_legible hall []).trans (congrArg Except.ok (Rules.made_append ..))
    refine ⟨_, hmade, fun path => ?_⟩
    cases hr : Rule.ofLine? line with
    | none =>
      have hsame : Rules.made lines ++ Rules.made [line] = rules := by simp [Rules.made, rules, hr]
      rw [hsame]
      exact ⟨fun _ => id, fun _ => id⟩
    | some r =>
      have hmark := negated_iff (ofLine?_eq_some_iff.1 hr)
      have hconcat : Rules.made lines ++ Rules.made [line] = rules ++ [r] := by
        simp [Rules.made, rules, hr]
      rw [hconcat, ← hmark, Bool.not_eq_true]
      exact ⟨Rules.ignores_concat, Rules.ignores_of_concat⟩
  · rintro before line after rfl hidle
    rw [← hrules, Rules.ofLines, Rules.ofLines, Rules.add_append, Rules.add_append]
    exact bind_congr fun rules => Rules.add_idle hidle rules after
  · rintro batches rfl
    exact (Rules.foldlM_add [] batches).trans hrules

/-- A file in an ignored directory, and a later negated line that names the file alone. -/
theorem last_match_decides_build : (∀ line ∈ ["# made", "build/"], Legible line) ∧
    Rules.Drops (Rules.made ["# made", "build/"]) ["build"] true ∧
    (∃ r ∈ Rules.made ["!build/keep.ts"], r.Meets ["build", "keep.ts"] false) ∧
    Rules.ignores (Rules.made ["# made", "build/"] ++ Rules.made ["!build/keep.ts"])
      "build/keep.ts" = true := by
  have hlegible : ∀ line ∈ ["# made", "build/"], Legible line := by decide +kernel
  have hdrops : Rules.Drops (Rules.made ["# made", "build/"]) ["build"] true :=
    (Rules.decides_join_iff (by decide) (by decide)).1 (by decide +kernel)
  refine ⟨hlegible, hdrops, by decide +kernel, ?_⟩
  exact (last_match_decides hlegible).2.2.1 _ ["build"] (by decide) (by decide +kernel)
    (by decide +kernel) hdrops _ (by decide +kernel)

end Coselect.Ignore
