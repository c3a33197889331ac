import PatternLint.Proofs.Pattern.Search
import PatternLint.Rule

/-!
# The scan over a text

`Scans text p pos l` is the loop of the scan without a limit on its rounds: from `pos` on it lists `l`
and comes to its end.  The scan with a limit is such a run as soon as the limit exceeds the characters
that are left (`scans_spansFrom`), so the limit is never what ends it.

`Lists text p pos l` says what the list has to be, with no word on how it is found: each span is a match,
later ones follow earlier ones, and every place where the pattern matches starts a span or lies inside
one.  A run makes such a list (`Scans.lists`), and there is no other (`Scans.eq_of_lists`).
-/

namespace PatternLint

namespace Pattern

variable {text : Array Char} {p : Pattern} {pos : Nat} {l : List (Nat × Nat)}

/-! ### The loop without a limit -/

/-- The scan goes on at the first place behind the start of a span that does not lie inside it. -/
theorem resume_le_iff {s e q : Nat} (h : s ≤ e) : resume s e ≤ q ↔ s < q ∧ e ≤ q := by
  unfold resume
  split_ifs
  · omega
  · omega

theorem lt_resume {s e : Nat} (h : s ≤ e) : s < resume s e :=
  ((resume_le_iff h).mp le_rfl).1

/-- The loop from `pos` on ends and has listed `l`. -/
inductive Scans (text : Array Char) (p : Pattern) : Nat → List (Nat × Nat) → Prop
  | past {pos : Nat} : text.size < pos → Scans text p pos []
  | missed {pos : Nat} : pos ≤ text.size → search text p pos = none → Scans text p pos []
  | found {pos s e : Nat} {l : List (Nat × Nat)} : pos ≤ text.size →
      search text p pos = some (s, e) → Scans text p (resume s e) l → Scans text p pos ((s, e) :: l)

theorem scans_spansFrom (p : Pattern) {fuel pos : Nat} (h : text.size < pos + fuel) :
    Scans text p pos (spansFrom text p fuel pos) := by
  induction fuel generalizing pos with
  | zero => exact .past (by omega)
  | succ fuel ih =>
    rw [spansFrom]
    by_cases hpos : pos ≤ text.size
    · cases hs : search text p pos with
      | none => exact .missed hpos hs
      | some span =>
        obtain ⟨s, e⟩ := span
        obtain ⟨h1, h2, -⟩ := search_eq_some hs
        have := lt_resume h2
        exact .found hpos hs (ih (by omega))
    · rw [search, if_neg hpos]
      exact .past (by omega)

theorem scans_spans (text : Array Char) (p : Pattern) : Scans text p 0 (spans text p) :=
  scans_spansFrom p (by omega)

/-- The loop passes over a place where the pattern does not match. -/
theorem Scans.skip (hpos : pos < text.size) (hm : matchAt text p pos = none)
    (h : Scans text p (pos + 1) l) : Scans text p pos l := by
  have hsearch := search_succ hpos hm
  cases h with
  | past hlt => omega
  | missed _ hs => exact .missed hpos.le (hsearch.trans hs)
  | found _ hs hl => exact .found hpos.le (hsearch.trans hs) hl

/-- The loop takes a match that is not empty and goes on at its end. -/
theorem Scans.take {e : Nat} (hpos : pos < e) (hsize : pos ≤ text.size)
    (hm : matchAt text p pos = some e) (h : Scans text p e l) :
    Scans text p pos ((pos, e) :: l) := by
  refine .found hsize (search_of_matchAt hsize hm) ?_
  rwa [resume, if_neg (by omega)]

/-- Every round moves on by at least one character, and the last one may stand at the end. -/
theorem Scans.length_le (h : Scans text p pos l) : l.length ≤ text.size + 1 - pos := by
  induction h with
  | past => exact Nat.zero_le _
  | missed => exact Nat.zero_le _
  | found hpos hs _ ih =>
    obtain ⟨h1, h2, -⟩ := search_eq_some hs
    have := lt_resume h2
    rw [List.length_cons]
    omega

/-! ### What the loop lists -/

/-- A later span starts behind the start of an earlier one and not before its end. -/
def Follows (a b : Nat × Nat) : Prop := a.1 < b.1 ∧ a.2 ≤ b.1

/-- The matches from `pos` on, from left to right and without overlap, with none left out. -/
structure Lists (text : Array Char) (p : Pattern) (pos : Nat) (l : List (Nat × Nat)) : Prop where
  matching : ∀ a ∈ l, pos ≤ a.1 ∧ a.1 ≤ text.size ∧ matchAt text p a.1 = some a.2
  follows : l.Pairwise Follows
  covers : ∀ q e, pos ≤ q → q ≤ text.size → matchAt text p q = some e →
    ∃ a ∈ l, a.1 = q ∨ a.1 < q ∧ q < a.2

theorem Lists.nil (h : ∀ j, pos ≤ j → j ≤ text.size → matchAt text p j = none) :
    Lists text p pos [] := by
  refine ⟨by simp, .nil, ?_⟩
  intro q e hq hsize hm
  rw [h q hq hsize] at hm
  simp at hm

theorem Lists.cons {s e : Nat} (hs : search text p pos = some (s, e))
    (h : Lists text p (resume s e) l) : Lists text p pos ((s, e) :: l) := by
  obtain ⟨h1, h2, h3, h4, -⟩ := search_eq_some hs
  have hstart : ∀ a ∈ l, s < a.1 ∧ e ≤ a.1 :=
    fun a ha => (resume_le_iff h2).mp (h.matching a ha).1
  refine ⟨?_, .cons hstart h.follows, ?_⟩
  · intro a ha
    rcases List.mem_cons.mp ha with rfl | ha
    · exact ⟨h1, h2.trans h3, h4⟩
    · have := hstart a ha
      exact ⟨by omega, (h.matching a ha).2⟩
  · intro q e' hq hsize hm
    have hsq := search_start_le hs hq hm
    by_cases hback : resume s e ≤ q
    · obtain ⟨a, ha, hcase⟩ := h.covers q e' hback hsize hm
      exact ⟨a, List.mem_cons_of_mem _ ha, hcase⟩
    · rw [resume_le_iff h2] at hback
      exact ⟨(s, e), List.mem_cons_self, by dsimp only; omega⟩

theorem Scans.lists (h : Scans text p pos l) : Lists text p pos l := by
  induction h with
  | past hpos => exact .nil fun j hj hsize => absurd hj (by omega)
  | missed _ hs => exact .nil (search_eq_none_iff.mp hs)
  | found _ hs _ ih => exact .cons hs ih

/-- A list of all matches starts with the first one, and what follows lists the matches behind it. -/
theorem Lists.uncons {s e : Nat} {l : List (Nat × Nat)} (hs : search text p pos = some (s, e))
    (h : Lists text p pos l) : ∃ later, l = (s, e) :: later ∧ Lists text p (resume s e) later := by
  obtain ⟨h1, h2, h3, h4, -⟩ := search_eq_some hs
  have hfirst : ∀ a ∈ l, s ≤ a.1 := by
    intro a ha
    obtain ⟨ha1, -, ham⟩ := h.matching a ha
    exact search_start_le hs ha1 ham
  obtain ⟨a, ha, hcase⟩ := h.covers s e h1 (h2.trans h3) h4
  have has := hfirst a ha
  obtain ⟨b, later, rfl⟩ := List.exists_cons_of_ne_nil (List.ne_nil_of_mem ha)
  obtain ⟨hfollow, hlater⟩ := List.pairwise_cons.mp h.follows
  -- the span that starts at `s` is the first of the list, since starts grow
  have hb1 : b.1 = s := by
    have hbs := hfirst b List.mem_cons_self
    rcases List.mem_cons.mp ha with rfl | ha
    · omega
    · have := (hfollow a ha).1
      omega
  have hb2 : b.2 = e := by
    have hbm := (h.matching b List.mem_cons_self).2.2
    rw [hb1, h4] at hbm
    exact (Option.some.inj hbm).symm
  obtain ⟨s', e'⟩ := b
  obtain rfl : s' = s := hb1
  obtain rfl : e' = e := hb2
  refine ⟨later, rfl, ?_, hlater, ?_⟩
  · intro c hc
    exact ⟨(resume_le_iff h2).mpr (hfollow c hc), (h.matching c (List.mem_cons_of_mem _ hc)).2⟩
  · intro q e' hq hsize hm
    have hq' := (resume_le_iff h2).mp hq
    obtain ⟨c, hc, hcase⟩ := h.covers q e' (by omega) hsize hm
    rcases List.mem_cons.mp hc with rfl | hc
    · dsimp only at hcase
      omega
    · exact ⟨c, hc, hcase⟩

theorem Lists.eq_nil {l : List (Nat × Nat)} (h : Lists text p pos l)
    (hnone : ∀ j, pos ≤ j → j ≤ text.size → matchAt text p j = none) : l = [] := by
  refine List.eq_nil_iff_forall_not_mem.mpr fun a ha => ?_
  obtain ⟨h1, h2, hm⟩ := h.matching a ha
  rw [hnone a.1 h1 h2] at hm
  simp at hm

/-- There is one list of all matches: the one that the loop makes. -/
theorem Scans.eq_of_lists (h : Scans text p pos l) {l' : List (Nat × Nat)}
    (h' : Lists text p pos l') : l' = l := by
  induction h generalizing l' with
  | past hpos => exact h'.eq_nil fun j hj hsize => absurd hj (by omega)
  | missed _ hs => exact h'.eq_nil (search_eq_none_iff.mp hs)
  | found _ hs _ ih =>
    obtain ⟨later, rfl, hlater⟩ := h'.uncons hs
    rw [ih hlater]

end Pattern

/-! ### The matches of a rule -/

/-- The offsets of a match. -/
def Match.span (m : Match) : Nat × Nat := (m.start, m.stop)

namespace Pattern

theorem map_span_findMatches (text : String) (p : Pattern) :
    (findMatches text p).map Match.span = spans text.toList.toArray p := by
  rw [findMatches, List.map_map]
  exact List.map_id _

theorem lists_findMatches (text : String) (p : Pattern) :
    Lists text.toList.toArray p 0 ((findMatches text p).map Match.span) := by
  rw [map_span_findMatches]
  exact (scans_spans text.toList.toArray p).lists

theorem mem_findMatches {text : String} {p : Pattern} {m : Match} (h : m ∈ findMatches text p) :
    m.start ≤ m.stop ∧ m.stop ≤ text.toList.length ∧
      m.text = String.ofList ((text.toList.take m.stop).drop m.start) := by
  obtain ⟨-, hsize, hmatch⟩ := (lists_findMatches text p).matching m.span (List.mem_map_of_mem h)
  obtain ⟨hle, hstop⟩ := matchAt_le hsize hmatch
  obtain ⟨⟨s, e⟩, -, rfl⟩ := List.mem_map.mp h
  exact ⟨hle, by simpa [Match.span] using hstop, by simp [slice, List.drop_take]⟩

theorem findMatches_follows (text : String) (p : Pattern) :
    (findMatches text p).Pairwise fun a b => a.start < b.start ∧ a.stop ≤ b.start :=
  List.pairwise_map.mp (lists_findMatches text p).follows

/-- All matches of a pattern in a text, from left to right: each is what the search from its own start
finds, none overlaps another, and a place where the pattern matches starts one or lies inside one. -/
structure Enumerates (p : Pattern) (text : String) (ms : List Match) : Prop where
  found : ∀ m ∈ ms, search text.toList.toArray p m.start = some m.span
  inText : ∀ m ∈ ms, m.start ≤ m.stop ∧ m.stop ≤ text.length ∧
    m.text = String.ofList ((text.toList.take m.stop).drop m.start)
  apart : ms.Pairwise fun a b => a.start < b.start ∧ a.stop ≤ b.start
  complete : ∀ q ≤ text.length, (∃ e, search text.toList.toArray p q = some (q, e)) →
    (∃ m ∈ ms, m.start = q) ∨ ∃ m ∈ ms, m.start < q ∧ q < m.stop

section Enumerated

variable {text : String} {ms : List Match}

theorem enumerates_findMatches (text : String) (p : Pattern) :
    Enumerates p text (findMatches text p) := by
  have hlists := lists_findMatches text p
  refine ⟨?_, ?_, findMatches_follows text p, ?_⟩
  · intro m hm
    obtain ⟨-, hsize, hmatch⟩ := hlists.matching m.span (List.mem_map_of_mem hm)
    exact search_of_matchAt hsize hmatch
  · intro m hm
    rw [← String.length_toList]
    exact mem_findMatches hm
  · rintro q hq ⟨e, he⟩
    obtain ⟨hsize, hmatch⟩ := search_self_iff.mp he
    obtain ⟨a, ha, hcase⟩ := hlists.covers q e (Nat.zero_le q) hsize hmatch
    obtain ⟨m, hm, rfl⟩ := List.mem_map.mp ha
    rcases hcase with hstart | hinside
    · exact Or.inl ⟨m, hm, hstart⟩
    · exact Or.inr ⟨m, hm, hinside⟩

theorem Enumerates.lists (h : Enumerates p text ms) :
    Lists text.toList.toArray p 0 (ms.map Match.span) := by
  refine ⟨?_, List.pairwise_map.mpr h.apart, ?_⟩
  · intro a ha
    obtain ⟨m, hm, rfl⟩ := List.mem_map.mp ha
    exact ⟨Nat.zero_le _, search_self_iff.mp (h.found m hm)⟩
  · intro q e _ hsize hmatch
    have hq : q ≤ text.length := by simpa [String.length_toList] using hsize
    rcases h.complete q hq ⟨e, search_of_matchAt hsize hmatch⟩ with ⟨m, hm, hstart⟩ | ⟨m, hm, hinside⟩
    · exact ⟨m.span, List.mem_map_of_mem hm, Or.inl hstart⟩
    · exact ⟨m.span, List.mem_map_of_mem hm, Or.inr hinside⟩

/-- The offsets of a match determine its text, so there is one list of all matches. -/
theorem Enumerates.eq_findMatches (h : Enumerates p text ms) : ms = findMatches text p := by
  have hspans : ms.map Match.span = spans text.toList.toArray p :=
    (scans_spans text.toList.toArray p).eq_of_lists h.lists
  rw [findMatches, ← hspans, List.map_map]
  refine (List.map_id ms).symm.trans (List.map_congr_left fun m hm => ?_)
  obtain ⟨-, -, htext⟩ := h.inText m hm
  obtain ⟨s, e, t⟩ := m
  dsimp only at htext
  simp [Match.span, slice, htext, List.drop_take]

/-- An empty match is listed, unless it lies inside another. -/
theorem Enumerates.mem_of_empty {q : Nat} (h : Enumerates p text ms)
    (houtside : ∀ m ∈ ms, ¬ (m.start < q ∧ q < m.stop))
    (hq : search text.toList.toArray p q = some (q, q)) : ⟨q, q, ""⟩ ∈ ms := by
  have hsize : q ≤ text.length := by simpa [String.length_toList] using (search_self_iff.mp hq).1
  rcases h.complete q hsize ⟨q, hq⟩ with ⟨m, hm, rfl⟩ | ⟨m, hm, hinside⟩
  · have hspan := h.found m hm
    rw [hq, Option.some.injEq] at hspan
    obtain ⟨-, hstop⟩ := Prod.mk.inj hspan
    obtain ⟨-, -, htext⟩ := h.inText m hm
    obtain ⟨s, e, t⟩ := m
    dsimp only at hstop htext hm ⊢
    subst hstop
    have hempty : t = "" := by simp [htext]
    exact hempty ▸ hm
  · exact absurd hinside (houtside m hm)

/-- The end of a match lies inside no match. -/
theorem Enumerates.stop_outside (h : Enumerates p text ms) {m : Match} (hm : m ∈ ms) :
    ∀ b ∈ ms, ¬ (b.start < m.stop ∧ m.stop < b.stop) := by
  rintro b hb ⟨hlo, hhi⟩
  have hle := (h.inText m hm).1
  obtain ⟨front, back, rfl⟩ := List.append_of_mem hm
  obtain ⟨-, hback, hfront⟩ := List.pairwise_append.mp h.apart
  rcases List.mem_append.mp hb with hb | hb
  · have := hfront b hb m List.mem_cons_self
    omega
  · rcases List.mem_cons.mp hb with rfl | hb
    · omega
    · have := (List.pairwise_cons.mp hback).1 b hb
      omega

end Enumerated

end Pattern

namespace Rule

/-- **The matches of a rule are all of them, each once.**  The loop ends after at most one match for
every offset, and the list is the only one that holds the leftmost matches without overlap.  An empty
match right behind another match, or at the end of the text, is in it. -/
theorem findMatches_enumerates_all (r : Rule) (text : String) :
    Pattern.Scans text.toList.toArray r.compiled 0 ((r.findMatches text).map Match.span) ∧
    (r.findMatches text).length ≤ text.length + 1 ∧
    (∀ ms, Pattern.Enumerates r.compiled text ms ↔ ms = r.findMatches text) ∧
    (∀ m ∈ r.findMatches text,
      Pattern.search text.toList.toArray r.compiled m.stop = some (m.stop, m.stop) →
        ⟨m.stop, m.stop, ""⟩ ∈ r.findMatches text) ∧
    (∀ e, Pattern.search text.toList.toArray r.compiled text.length = some (text.length, e) →
      ⟨text.length, text.length, ""⟩ ∈ r.findMatches text) := by
  have hscan : Pattern.Scans text.toList.toArray r.compiled 0
      ((r.findMatches text).map Match.span) := by
    rw [findMatches, Pattern.map_span_findMatches]
    exact Pattern.scans_spans _ _
  have hall : Pattern.Enumerates r.compiled text (r.findMatches text) :=
    Pattern.enumerates_findMatches text r.compiled
  refine ⟨hscan, ?_, ?_, ?_, ?_⟩
  · simpa [String.length_toList] using hscan.length_le
  · intro ms
    constructor
    · exact Pattern.Enumerates.eq_findMatches
    · rintro rfl
      exact hall
  · intro m hm hempty
    exact hall.mem_of_empty (hall.stop_outside hm) hempty
  · intro e he
    -- a match that starts at the end of the text is empty, and no match goes beyond the end
    have hend : e = text.length := by
      obtain ⟨-, h2, h3, -⟩ := Pattern.search_eq_some he
      have : e ≤ text.length := by simpa [String.length_toList] using h3
      omega
    refine hall.mem_of_empty (fun m hm => ?_) (hend ▸ he)
    have := (hall.inText m hm).2.1
    omega

-- an empty match right behind a match, and one at the end of the text
example : (Pattern.compile "a*" false).toOption.map (Pattern.spans "aab".toList.toArray) =
    some [(0, 2), (2, 2), (3, 3)] := by
  decide

end Rule

end PatternLint
