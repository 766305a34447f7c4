import Mathlib.Data.List.Chain
import Coselect.Proofs.Glob.Items

/-! Globs and the components of paths. A glob without brackets takes a path whose components can be
dealt out to its segments: a run of stars that is a whole segment gets any number of them, and every
other segment gets one that it takes character by character. -/

namespace Coselect.Glob

open Text

variable {dotAll : Bool} {is : List Item} {s seg part rest : List Char}
  {segs segs' parts : List (List Char)}

/-! ### Segments and components -/

/-- A segment takes a component: `*` stands for any characters, `?` for one, and every other
character for itself. -/
inductive Takes : List Char → List Char → Prop
  | nil : Takes [] []
  | run {seg rest : List Char} (front : List Char) : Takes seg rest → Takes ('*' :: seg) (front ++ rest)
  | single {seg rest : List Char} (c : Char) : Takes seg rest → Takes ('?' :: seg) (c :: rest)
  | char {seg rest : List Char} {c : Char} : c ≠ '*' → c ≠ '?' → Takes seg rest →
      Takes (c :: seg) (c :: rest)

theorem takes_run : Takes ('*' :: seg) part ↔ ∃ front rest, part = front ++ rest ∧ Takes seg rest := by
  constructor
  · intro h
    cases h with
    | run front h => exact ⟨front, _, rfl, h⟩
    | char h => exact absurd rfl h
  · rintro ⟨front, rest, rfl, h⟩
    exact .run front h

theorem takes_cons {c : Char} (hc : c ≠ '*') : Takes (c :: seg) part ↔
    ∃ d rest, part = d :: rest ∧ (c = '?' ∨ d = c) ∧ Takes seg rest := by
  constructor
  · intro h
    cases h with
    | run => exact absurd rfl hc
    | single d h => exact ⟨d, _, rfl, .inl rfl, h⟩
    | char _ _ h => exact ⟨c, _, rfl, .inr rfl, h⟩
  · rintro ⟨d, rest, rfl, rfl | rfl, h⟩
    · exact .single d h
    · by_cases hsingle : d = '?'
      · subst hsingle
        exact .single _ h
      · exact .char hc hsingle h

/-- A segment without wildcards takes itself alone. -/
theorem takes_iff_eq (h : ∀ c ∈ seg, c ≠ '*' ∧ c ≠ '?') : Takes seg part ↔ part = seg := by
  induction seg generalizing part with
  | nil =>
    constructor
    · intro h
      cases h
      rfl
    · rintro rfl
      exact .nil
  | cons c seg ih =>
    obtain ⟨⟨hrun, hsingle⟩, hseg⟩ := List.forall_mem_cons.1 h
    simp only [takes_cons hrun, hsingle, false_or, ih hseg]
    constructor
    · rintro ⟨d, rest, rfl, rfl, rfl⟩
      rfl
    · rintro rfl
      exact ⟨c, seg, rfl, rfl, rfl⟩

/-- Components dealt out to segments in order, any number to a run of stars and one to each other
segment. -/
inductive Aligned : List (List Char) → List (List Char) → Prop
  | nil : Aligned [] []
  | stars {seg : List Char} {segs parts : List (List Char)} (taken : List (List Char)) :
      isGlobstar seg = true → Aligned segs parts → Aligned (seg :: segs) (taken ++ parts)
  | name {seg part : List Char} {segs parts : List (List Char)} : isGlobstar seg = false →
      Takes seg part → Aligned segs parts → Aligned (seg :: segs) (part :: parts)

theorem aligned_nil : Aligned [] parts ↔ parts = [] := by
  constructor
  · intro h
    cases h
    rfl
  · rintro rfl
    exact .nil

theorem aligned_cons_of_isGlobstar (h : isGlobstar seg = true) : Aligned (seg :: segs) parts ↔
    ∃ taken rest, parts = taken ++ rest ∧ Aligned segs rest := by
  constructor
  · intro hal
    cases hal with
    | stars taken _ hrest => exact ⟨taken, _, rfl, hrest⟩
    | name hseg => simp [h] at hseg
  · rintro ⟨taken, rest, rfl, hrest⟩
    exact .stars taken h hrest

theorem aligned_cons_of_not_isGlobstar (h : isGlobstar seg = false) : Aligned (seg :: segs) parts ↔
    ∃ part rest, parts = part :: rest ∧ Takes seg part ∧ Aligned segs rest := by
  constructor
  · intro hal
    cases hal with
    | stars taken hseg => simp [h] at hseg
    | name _ hpart hrest => exact ⟨_, _, rfl, hpart, hrest⟩
  · rintro ⟨part, rest, rfl, hpart, hrest⟩
    exact .name h hpart hrest

/-- Segments in two parts get components in two parts. -/
theorem aligned_append : Aligned (segs ++ segs') parts ↔
    ∃ front back, parts = front ++ back ∧ Aligned segs front ∧ Aligned segs' back := by
  induction segs generalizing parts with
  | nil =>
    constructor
    · exact fun h => ⟨[], parts, rfl, .nil, h⟩
    · rintro ⟨front, back, rfl, hfront, hback⟩
      obtain rfl := aligned_nil.1 hfront
      exact hback
  | cons seg segs ih =>
    cases hseg : isGlobstar seg with
    | true =>
      simp only [List.cons_append, aligned_cons_of_isGlobstar hseg, ih]
      constructor
      · rintro ⟨taken, _, rfl, front, back, rfl, hfront, hback⟩
        exact ⟨taken ++ front, back, (List.append_assoc ..).symm, ⟨taken, front, rfl, hfront⟩, hback⟩
      · rintro ⟨_, back, rfl, ⟨taken, front, rfl, hfront⟩, hback⟩
        exact ⟨taken, front ++ back, List.append_assoc .., front, back, rfl, hfront, hback⟩
    | false =>
      simp only [List.cons_append, aligned_cons_of_not_isGlobstar hseg, ih]
      constructor
      · rintro ⟨part, _, rfl, hpart, front, back, rfl, hfront, hback⟩
        exact ⟨part :: front, back, rfl, ⟨part, front, rfl, hpart, hfront⟩, hback⟩
      · rintro ⟨_, back, rfl, ⟨part, front, rfl, hpart, hfront⟩, hback⟩
        exact ⟨part, front ++ back, rfl, hpart, front, back, rfl, hfront, hback⟩

/-- Only runs of stars can go without components. -/
theorem Aligned.isGlobstar_of_nil (h : Aligned segs []) : ∀ seg ∈ segs, isGlobstar seg = true := by
  generalize hparts : ([] : List (List Char)) = parts at h
  induction h with
  | nil => simp
  | stars taken hseg _ ih =>
    obtain ⟨-, hrest⟩ := List.append_eq_nil_iff.1 hparts.symm
    exact List.forall_mem_cons.2 ⟨hseg, ih hrest.symm⟩
  | name => cases hparts

/-! ### Items and characters -/

theorem afterRun_iff {inRun : Char → Bool} {ok : List Char → Bool} : afterRun inRun ok s = true ↔
    ∃ front rest, s = front ++ rest ∧ (∀ c ∈ front, inRun c = true) ∧ ok rest = true := by
  induction s with
  | nil =>
    rw [afterRun]
    constructor
    · exact fun h => ⟨[], [], rfl, by simp, h⟩
    · rintro ⟨front, rest, hs, -, hok⟩
      rwa [(List.append_eq_nil_iff.1 hs.symm).2] at hok
  | cons c cs ih =>
    rw [afterRun, Bool.or_eq_true, Bool.and_eq_true, ih]
    constructor
    · rintro (hok | ⟨hc, front, rest, rfl, hfront, hok⟩)
      · exact ⟨[], _, rfl, by simp, hok⟩
      · exact ⟨c :: front, rest, rfl, by simpa using ⟨hc, hfront⟩, hok⟩
    · rintro ⟨_ | ⟨d, front⟩, rest, hs, hfront, hok⟩
      · obtain rfl : c :: cs = rest := hs
        exact .inl hok
      · obtain ⟨rfl, rfl⟩ := List.cons.inj hs
        obtain ⟨hc, hfront⟩ := List.forall_mem_cons.1 hfront
        exact .inr ⟨hc, front, rest, rfl, hfront, hok⟩

theorem afterSlash_iff {inRun : Char → Bool} {ok : List Char → Bool} : afterSlash inRun ok s = true ↔
    ∃ front rest, s = front ++ '/' :: rest ∧ (∀ c ∈ front, inRun c = true) ∧ ok rest = true := by
  induction s with
  | nil => simp [afterSlash]
  | cons c cs ih =>
    rw [afterSlash, Bool.or_eq_true, Bool.and_eq_true, Bool.and_eq_true, ih]
    constructor
    · rintro (⟨hc, hok⟩ | ⟨hc, front, rest, rfl, hfront, hok⟩)
      · exact ⟨[], cs, by simpa using hc, by simp, hok⟩
      · exact ⟨c :: front, rest, rfl, by simpa using ⟨hc, hfront⟩, hok⟩
    · rintro ⟨_ | ⟨d, front⟩, rest, hs, hfront, hok⟩
      · obtain ⟨rfl, rfl⟩ := List.cons.inj hs
        exact .inl ⟨rfl, hok⟩
      · obtain ⟨rfl, rfl⟩ := List.cons.inj hs
        obtain ⟨hc, hfront⟩ := List.forall_mem_cons.1 hfront
        exact .inr ⟨hc, front, rest, rfl, hfront, hok⟩

theorem isPoint_true (c : Char) : isPoint true c = true := rfl

theorem matchItems_run : matchItems dotAll (.sets notSlash :: is) s = true ↔
    ∃ front rest, s = front ++ rest ∧ '/' ∉ front ∧ matchItems dotAll is rest = true := by
  have hfront : ∀ front : List Char, (∀ c ∈ front, notSlash.has c = true) ↔ '/' ∉ front := by
    intro front
    simp only [has_notSlash, bne_iff_ne, ne_eq]
    exact ⟨fun h hslash => h _ hslash rfl, fun h c hc e => h (e ▸ hc)⟩
  rw [matchItems, afterRun_iff]
  simp only [hfront]

theorem matchItems_directories : matchItems true (.directories :: is) s = true ↔
    matchItems true is s = true ∨
      ∃ front rest, s = front ++ '/' :: rest ∧ matchItems true is rest = true := by
  rw [matchItems, Bool.or_eq_true, afterSlash_iff]
  simp [isPoint_true]

theorem matchItems_anything (s : List Char) : matchItems true [.anything] s = true := by
  rw [matchItems, afterRun_iff]
  exact ⟨s, [], (List.append_nil s).symm, fun c _ => isPoint_true c, rfl⟩

theorem matchItems_below : matchItems true [.below] s = true ↔ s = [] ∨ ∃ rest, s = '/' :: rest := by
  have hrest : ∀ rest, afterRun (isPoint true) (matchItems true []) rest = true := matchItems_anything
  cases s with
  | nil => simp [matchItems]
  | cons c s =>
    by_cases hc : c = '/'
    · subst hc
      simpa [matchItems] using hrest s
    · rw [matchItems]
      · simp [matchItems, hc]
      · rintro _ h
        exact hc (List.cons.inj h).1

theorem matchItems_charItem {c : Char} (hrun : c ≠ '*') (hslash : c ≠ '/') :
    matchItems dotAll (charItem c :: is) s = true ↔
      ∃ d rest, s = d :: rest ∧ d ≠ '/' ∧ (c = '?' ∨ d = c) ∧ matchItems dotAll is rest = true := by
  rw [charItem, if_neg hrun]
  split
  next hsingle => cases s <;> simp [matchItems, has_notSlash, hsingle]
  next hsingle =>
    cases s with
    | nil => simp [matchItems]
    | cons d s =>
      rw [matchItems, Bool.and_eq_true, beq_iff_eq]
      constructor
      · rintro ⟨rfl, h⟩
        exact ⟨c, s, rfl, hslash, .inr rfl, h⟩
      · rintro ⟨_, _, h, -, hd, hrest⟩
        obtain ⟨rfl, rfl⟩ := List.cons.inj h
        exact ⟨(hd.resolve_left hsingle).symm, hrest⟩

/-- The items of a segment take what the segment takes, in a text up to some place before its next
slash. -/
theorem matchItems_segment (hseg : '/' ∉ seg) : matchItems dotAll (seg.map charItem ++ is) s = true ↔
    ∃ part rest, s = part ++ rest ∧ '/' ∉ part ∧ Takes seg part ∧ matchItems dotAll is rest = true := by
  induction seg generalizing s with
  | nil =>
    constructor
    · exact fun h => ⟨[], s, rfl, by simp, .nil, h⟩
    · rintro ⟨_, rest, rfl, -, ⟨⟩, h⟩
      exact h
  | cons c seg ih =>
    have hc : c ≠ '/' := (List.ne_of_not_mem_cons hseg).symm
    have ih := fun {s} => ih (s := s) (List.not_mem_of_not_mem_cons hseg)
    by_cases hrun : c = '*'
    · subst hrun
      change matchItems dotAll (.sets notSlash :: (seg.map charItem ++ is)) s = true ↔ _
      simp only [matchItems_run, ih, takes_run]
      constructor
      · rintro ⟨front, _, rfl, hfront, part, rest, rfl, hpart, htakes, hrest⟩
        exact ⟨front ++ part, rest, (List.append_assoc ..).symm, by simp [hfront, hpart],
          ⟨front, part, rfl, htakes⟩, hrest⟩
      · rintro ⟨_, rest, rfl, hpart, ⟨front, part, rfl, htakes⟩, hrest⟩
        rw [List.mem_append, not_or] at hpart
        exact ⟨front, part ++ rest, List.append_assoc .., hpart.1, part, rest, rfl, hpart.2, htakes, hrest⟩
    · rw [List.map_cons, List.cons_append, matchItems_charItem hrun hc]
      simp only [ih, takes_cons hrun]
      constructor
      · rintro ⟨d, _, rfl, hd, hstands, part, rest, rfl, hpart, htakes, hrest⟩
        exact ⟨d :: part, rest, rfl, by simp [hd.symm, hpart], ⟨d, part, rfl, hstands, htakes⟩, hrest⟩
      · rintro ⟨_, rest, rfl, hpart, ⟨d, part, rfl, hstands, htakes⟩, hrest⟩
        rw [List.mem_cons, not_or] at hpart
        obtain ⟨hd, hpart⟩ := hpart
        exact ⟨d, part ++ rest, rfl, Ne.symm hd, hstands, part, rest, rfl, hpart, htakes, hrest⟩

/-! ### The items of the segments -/

/-- No two runs of stars stand at the end. -/
def LoneEnd (segs : List (List Char)) : Prop :=
  ∀ front a b, segs = front ++ [a, b] → isGlobstar a = true → isGlobstar b = false

theorem LoneEnd.tail (h : LoneEnd (seg :: segs)) : LoneEnd segs :=
  fun front a b hsegs => h (seg :: front) a b (by rw [hsegs, List.cons_append])

/-- Where every segment is a run of stars, there is one at most. -/
theorem LoneEnd.eq_of_forall (h : LoneEnd segs) (hne : segs ≠ [])
    (hall : ∀ seg ∈ segs, isGlobstar seg = true) : ∃ seg, segs = [seg] ∧ isGlobstar seg = true := by
  obtain ⟨front, b, rfl⟩ := (List.eq_nil_or_concat' segs).resolve_left hne
  obtain rfl | ⟨front, a, rfl⟩ := List.eq_nil_or_concat' front
  · exact ⟨b, rfl, hall b (by simp)⟩
  · have hb := h front a b (by simp) (hall a (by simp))
    exact absurd (hall b (by simp)) (by simp [hb])

/-- Behind a segment the text ends, if the other segments can go without components, or goes on with
a slash. -/
theorem matchItems_slashed (hend : LoneEnd segs)
    (his : segs ≠ [] → ∀ s, matchItems true is s = true ↔ Aligned segs (splitAt '/' s)) :
    matchItems true (slashed segs is) s = true ↔
      (s = [] ∧ Aligned segs []) ∨ ∃ rest, s = '/' :: rest ∧ Aligned segs (splitAt '/' rest) := by
  have hslash : segs ≠ [] → (¬ ∃ seg, segs = [seg] ∧ isGlobstar seg = true) →
      (matchItems true (.char '/' :: is) s = true ↔
        (s = [] ∧ Aligned segs []) ∨ ∃ rest, s = '/' :: rest ∧ Aligned segs (splitAt '/' rest)) := by
    intro hne hlone
    have hsome : ¬ Aligned segs [] := fun h => hlone (hend.eq_of_forall hne h.isGlobstar_of_nil)
    cases s with
    | nil => simp [matchItems, hsome]
    | cons c s =>
      rw [matchItems, Bool.and_eq_true, beq_iff_eq, his hne]
      constructor
      · rintro ⟨rfl, h⟩
        exact .inr ⟨s, rfl, h⟩
      · rintro (⟨h, -⟩ | ⟨rest, h, hrest⟩)
        · cases h
        · obtain ⟨rfl, rfl⟩ := List.cons.inj h
          exact ⟨rfl, hrest⟩
  unfold slashed
  split
  next =>
    simp [matchItems, aligned_nil, splitAt_ne_nil]
  next seg =>
    split
    next hseg =>
      have hany : ∀ parts, Aligned [seg] parts := fun parts => by
        simpa using Aligned.stars parts hseg .nil
      simp [matchItems_below, hany]
    next hseg => exact hslash (by simp) (by simpa using hseg)
  next hnil hmany =>
    refine hslash hnil ?_
    rintro ⟨seg, rfl, -⟩
    exact hmany seg rfl

/-- The items of segments take the texts whose parts between slashes can be dealt out to the
segments. -/
theorem matchItems_itemsOf (hne : segs ≠ []) (hslash : ∀ seg ∈ segs, '/' ∉ seg) (hend : LoneEnd segs)
    (s : List Char) : matchItems true (itemsOf segs) s = true ↔ Aligned segs (splitAt '/' s) := by
  induction segs generalizing s with
  | nil => contradiction
  | cons seg segs ih =>
    obtain ⟨hseg, hsegs⟩ := List.forall_mem_cons.1 hslash
    have ih := fun hnil => ih hnil hsegs hend.tail
    rw [itemsOf]
    cases hstars : isGlobstar seg with
    | true =>
      rw [if_pos rfl, aligned_cons_of_isGlobstar hstars]
      split
      next hnil =>
        obtain rfl := List.isEmpty_iff.1 hnil
        exact iff_of_true (matchItems_anything s) ⟨_, [], (List.append_nil _).symm, .nil⟩
      next hnil =>
        have hne : segs ≠ [] := by simpa using hnil
        simp only [matchItems_directories, ih hne]
        constructor
        · rintro (h | ⟨front, rest, rfl, h⟩)
          · exact ⟨[], _, rfl, h⟩
          · exact ⟨_, _, splitAt_append_sep '/' front rest, h⟩
        · rintro ⟨taken, parts, hsplit, h⟩
          have hparts : parts ≠ [] := by
            rintro rfl
            obtain ⟨last, rfl, hlast⟩ := hend.tail.eq_of_forall hne h.isGlobstar_of_nil
            simp [hend [] seg last rfl hstars] at hlast
          by_cases htaken : taken = []
          · rw [htaken, List.nil_append] at hsplit
            exact .inl (hsplit ▸ h)
          · obtain ⟨front, rest, rfl, -, hrest⟩ := exists_of_splitAt_eq_append hsplit htaken hparts
            exact .inr ⟨front, rest, rfl, hrest ▸ h⟩
    | false =>
      rw [if_neg (by simp), matchItems_segment hseg, aligned_cons_of_not_isGlobstar hstars]
      simp only [matchItems_slashed hend.tail ih]
      constructor
      · rintro ⟨part, _, rfl, hpart, htakes, ⟨rfl, hrest⟩ | ⟨rest, rfl, hrest⟩⟩
        · rw [List.append_nil]
          exact ⟨part, [], splitAt_of_notMem hpart, htakes, hrest⟩
        · exact ⟨part, _, splitAt_append_cons hpart, htakes, hrest⟩
      · rintro ⟨part, parts, hsplit, htakes, hrest⟩
        obtain ⟨hpart, ⟨rfl, rfl⟩ | ⟨rest, rfl, rfl⟩⟩ := splitAt_eq_cons_iff.1 hsplit
        · exact ⟨s, [], (List.append_nil s).symm, hpart, htakes, .inl ⟨rfl, hrest⟩⟩
        · exact ⟨part, _, rfl, hpart, htakes, .inr ⟨rest, rfl, hrest⟩⟩

/-- A glob that is one segment takes the names that the segment takes. -/
theorem compile_segment {segment : String} (h : Ordinary segment.toList) :
    ∃ items, compile segment = .ok items ∧ ∀ name : String, '/' ∉ name.toList →
      (matchName items name = true ↔ Takes segment.toList name.toList) := by
  have hsplit := splitAt_of_notMem h.noSlash
  have hcompile : compile segment = _ := compile_eq (by rw [hsplit]; simpa [Segmented] using .inr h)
  refine ⟨_, hcompile, fun name hname => ?_⟩
  have hitems : itemsOf (splitAt '/' segment.toList) = segment.toList.map charItem ++ [] := by
    rw [hsplit, itemsOf, if_neg (by simp [h.not_isGlobstar])]
    rfl
  rw [hitems, matchName, matchItems_segment h.noSlash]
  constructor
  · rintro ⟨part, rest, hparts, -, htakes, hrest⟩
    rw [hparts, List.isEmpty_iff.1 hrest, List.append_nil]
    exact htakes
  · exact fun htakes => ⟨_, [], (List.append_nil _).symm, hname, htakes, rfl⟩

/-- A glob without brackets, in which runs of stars are whole segments that never stand next to each
other, is compiled, and it takes the paths whose components can be dealt out to its segments: each run
of stars gets any number of them, and each other segment gets one that it takes character by
character. -/
theorem takes_whole_components {pattern : String} (hbracket : '[' ∉ pattern.toList)
    (hwhole : ∀ seg ∈ splitAt '/' pattern.toList, isGlobstar seg = true ∨ ¬ ['*', '*'] <:+: seg)
    (hapart : (splitAt '/' pattern.toList).IsChain fun a b =>
      isGlobstar a = true → isGlobstar b = false) :
    ∃ items, compile pattern = .ok items ∧ ∀ path, matchPath items path = true ↔
      Aligned (splitAt '/' pattern.toList) (splitAt '/' path.toList) := by
  have hslash : ∀ seg ∈ splitAt '/' pattern.toList, '/' ∉ seg := fun _ => notMem_of_mem_splitAt
  have hsegmented : Segmented (splitAt '/' pattern.toList) := fun seg hseg =>
    (hwhole seg hseg).imp_right fun h =>
      ⟨h, fun hin => hbracket (mem_of_mem_splitAt hseg hin), hslash seg hseg⟩
  have hend : LoneEnd (splitAt '/' pattern.toList) := by
    intro front a b hsegs
    rw [hsegs] at hapart
    exact (List.isChain_append_cons_cons.1 hapart).2.1
  exact ⟨_, compile_eq hsegmented, fun path =>
    matchItems_itemsOf (splitAt_ne_nil _ _) hslash hend path.toList⟩

/-- Test files anywhere below one directory, and one of them right in it. -/
theorem takes_whole_components_specs : '[' ∉ "src/**/*.spec.ts".toList ∧
    ∃ items, compile "src/**/*.spec.ts" = .ok items ∧ matchPath items "src/a.spec.ts" = true ∧
      ∀ path, matchPath items path = true ↔
        Aligned ["src".toList, "**".toList, "*.spec.ts".toList] (splitAt '/' path.toList) := by
  have hsegs : splitAt '/' "src/**/*.spec.ts".toList =
      ["src".toList, "**".toList, "*.spec.ts".toList] := by decide +kernel
  have hbracket : '[' ∉ "src/**/*.spec.ts".toList := by decide +kernel
  have hwhole : ∀ seg ∈ splitAt '/' "src/**/*.spec.ts".toList,
      isGlobstar seg = true ∨ ¬ ['*', '*'] <:+: seg := by
    rw [hsegs]
    decide +kernel
  have hapart : (splitAt '/' "src/**/*.spec.ts".toList).IsChain fun a b =>
      isGlobstar a = true → isGlobstar b = false := by
    rw [hsegs]
    decide +kernel
  obtain ⟨items, hitems, htakes⟩ := takes_whole_components hbracket hwhole hapart
  rw [hsegs] at htakes
  have hsuffix : Takes ".spec.ts".toList ".spec.ts".toList := (takes_iff_eq (by decide)).2 rfl
  have hdir : Takes "src".toList "src".toList := (takes_iff_eq (by decide)).2 rfl
  refine ⟨hbracket, items, hitems, (htakes _).2 ?_, htakes⟩
  exact .name rfl hdir (.stars [] rfl (.name rfl (.run ['a'] hsuffix) .nil))

end Coselect.Glob
