import Mathlib.Tactic
import PatternLint.Match

/-!
# Where matches lie

Trying a tree never leaves the text: `Node.run` hands its continuation only positions from its own up
to the end of the text (`Node.advances_run`), whatever the tree.  So a match ends behind its start and
in the text, and `search` finds the first of them (`search_eq_some`) if there is one
(`search_eq_none_iff`).
-/

namespace PatternLint.Pattern

variable {text : Array Char}

/-! ### What a continuation is reached with -/

/-- `r` is what the continuation makes of a position between that of `p` and the end of the text. -/
def Reaches (text : Array Char) (p : Progress) (k : Continuation) (r : Progress) : Prop :=
  ∃ q, p.pos ≤ q.pos ∧ q.pos ≤ text.size ∧ k q = some r

/-- A way of matching that only moves forward and stays in the text. -/
def Advances (text : Array Char) (body : Progress → Continuation → Option Progress) : Prop :=
  ∀ p k r, p.pos ≤ text.size → body p k = some r → Reaches text p k r

theorem Reaches.here {p r : Progress} {k : Continuation} (hp : p.pos ≤ text.size)
    (h : k p = some r) : Reaches text p k r :=
  ⟨p, le_rfl, hp, h⟩

theorem Reaches.moveTo {p r : Progress} {k : Continuation} {i : Nat} (hp : p.pos ≤ i)
    (hi : i ≤ text.size) (h : k (p.moveTo i) = some r) : Reaches text p k r :=
  ⟨p.moveTo i, hp, hi, h⟩

theorem Reaches.bind {p r : Progress} {k k' : Continuation} (h : Reaches text p k r)
    (hk : ∀ q, p.pos ≤ q.pos → q.pos ≤ text.size → k q = some r → Reaches text q k' r) :
    Reaches text p k' r := by
  obtain ⟨q, hpq, hq, hr⟩ := h
  obtain ⟨q', hqq', hq', hr'⟩ := hk q hpq hq hr
  exact ⟨q', hpq.trans hqq', hq', hr'⟩

/-! ### Loops over a single character -/

theorem countAccepted_le (text : Array Char) (m : Mode) (t : CharTest) (limit i n : Nat) :
    countAccepted text m t limit i n ≤ n + limit := by
  fun_induction countAccepted text m t limit i n with
  | case1 => omega
  | case2 limit i n c hc ht ih => omega
  | case3 => omega
  | case4 => omega

theorem tryDown_some {p r : Progress} {k : Continuation} {lo extra : Nat}
    (h : tryDown p k lo extra = some r) : ∃ j, j ≤ lo + extra ∧ k (p.moveTo (p.pos + j)) = some r := by
  induction extra with
  | zero => exact ⟨lo, le_rfl, h⟩
  | succ extra ih =>
    rw [tryDown] at h
    cases hk : k (p.moveTo (p.pos + lo + (extra + 1))) with
    | some r' =>
      rw [hk] at h
      obtain rfl := Option.some.inj h
      exact ⟨lo + (extra + 1), le_rfl, by rw [← Nat.add_assoc]; exact hk⟩
    | none =>
      rw [hk] at h
      obtain ⟨j, hj, hr⟩ := ih h
      exact ⟨j, by omega, hr⟩

theorem tryUp_some {p r : Progress} {k : Continuation} {extra n : Nat}
    (h : tryUp p k extra n = some r) : ∃ j, j ≤ n + extra ∧ k (p.moveTo (p.pos + j)) = some r := by
  induction extra generalizing n with
  | zero => exact ⟨n, le_rfl, h⟩
  | succ extra ih =>
    rw [tryUp] at h
    cases hk : k (p.moveTo (p.pos + n)) with
    | some r' =>
      rw [hk] at h
      obtain rfl := Option.some.inj h
      exact ⟨n, by omega, hk⟩
    | none =>
      rw [hk] at h
      obtain ⟨j, hj, hr⟩ := ih h
      exact ⟨j, by omega, hr⟩

theorem atMost_le (hi : Option Nat) (left : Nat) : atMost hi left ≤ left := by
  cases hi with
  | none => exact le_rfl
  | some b => exact min_le_right b left

theorem advances_charLoop (m : Mode) (mode : LoopMode) (lo : Nat) (hi : Option Nat) (t : CharTest) :
    Advances text (charLoop text m mode lo hi t) := by
  intro p k r hp h
  have hlimit := atMost_le hi (text.size - p.pos)
  have hcount := countAccepted_le text m t (atMost hi (text.size - p.pos)) p.pos 0
  unfold charLoop at h
  dsimp only at h
  set n := countAccepted text m t (atMost hi (text.size - p.pos)) p.pos 0 with hn
  by_cases hlo : n < lo
  · rw [if_pos hlo] at h
    simp at h
  · rw [if_neg hlo] at h
    have hreach : ∀ j, j ≤ n → k (p.moveTo (p.pos + j)) = some r → Reaches text p k r :=
      fun j hj hr => .moveTo (by omega) (by omega) hr
    cases mode with
    | greedy =>
      obtain ⟨j, hj, hr⟩ := tryDown_some h
      exact hreach j (by omega) hr
    | reluctant =>
      obtain ⟨j, hj, hr⟩ := tryUp_some h
      exact hreach j (by omega) hr
    | possessive => exact hreach n le_rfl h

/-! ### Loops over a tree -/

section Loops

variable {body : Progress → Continuation → Option Progress} {lo : Nat} {hi : Option Nat}

/-- One more round of the loop, then what the loop does from there. -/
theorem Advances.round {p r : Progress} {k loop : Continuation} (hb : Advances text body)
    (hp : p.pos ≤ text.size)
    (hloop : ∀ q, q.pos ≤ text.size → loop q = some r → Reaches text q k r)
    (h : body p loop = some r) : Reaches text p k r :=
  (hb p loop r hp h).bind fun q _ hq hr => hloop q hq hr

theorem Advances.greedyLoop {k : Continuation} {r : Progress} (hb : Advances text body) (fuel : Nat) :
    ∀ count last p, p.pos ≤ text.size →
      greedyLoop body lo hi k fuel count last p = some r → Reaches text p k r := by
  induction fuel with
  | zero =>
    intro count last p _ h
    simp [Pattern.greedyLoop] at h
  | succ fuel ih =>
    intro count last p hp h
    rw [Pattern.greedyLoop] at h
    split_ifs at h with hlo hmore
    · exact hb.round hp (fun q hq => ih (count + 1) last q hq) h
    · cases hr : body p (Pattern.greedyLoop body lo hi k fuel (count + 1) (some p.pos)) with
      | some r' =>
        rw [hr] at h
        obtain rfl := Option.some.inj h
        exact hb.round hp (fun q hq => ih (count + 1) (some p.pos) q hq) hr
      | none =>
        rw [hr] at h
        exact .here hp h
    · exact .here hp h

theorem Advances.reluctantLoop {k : Continuation} {r : Progress} (hb : Advances text body)
    (fuel : Nat) :
    ∀ count last p, p.pos ≤ text.size →
      reluctantLoop body lo hi k fuel count last p = some r → Reaches text p k r := by
  induction fuel with
  | zero =>
    intro count last p _ h
    simp [Pattern.reluctantLoop] at h
  | succ fuel ih =>
    intro count last p hp h
    rw [Pattern.reluctantLoop] at h
    by_cases hlo : count < lo
    · rw [if_pos hlo] at h
      exact hb.round hp (fun q hq => ih (count + 1) last q hq) h
    · rw [if_neg hlo] at h
      cases hk : k p with
      | some r' =>
        rw [hk] at h
        obtain rfl := Option.some.inj h
        exact .here hp hk
      | none =>
        rw [hk] at h
        dsimp only at h
        split_ifs at h with hmore
        exact hb.round hp (fun q hq => ih (count + 1) (some p.pos) q hq) h

/-- A way through the body alone ends between `p` and the end of the text. -/
theorem Advances.some {p q : Progress} (hb : Advances text body) (hp : p.pos ≤ text.size)
    (h : body p Option.some = Option.some q) : p.pos ≤ q.pos ∧ q.pos ≤ text.size := by
  obtain ⟨q', h1, h2, h3⟩ := hb p _ q hp h
  obtain rfl := Option.some.inj h3
  exact ⟨h1, h2⟩

theorem Advances.possessiveLoop {r : Progress} (hb : Advances text body) (fuel : Nat) :
    ∀ count last p, p.pos ≤ text.size →
      possessiveLoop body lo hi fuel count last p = Option.some r →
        p.pos ≤ r.pos ∧ r.pos ≤ text.size := by
  induction fuel with
  | zero =>
    intro count last p _ h
    simp [Pattern.possessiveLoop] at h
  | succ fuel ih =>
    intro count last p hp h
    rw [Pattern.possessiveLoop] at h
    have hstay : Option.some p = Option.some r → p.pos ≤ r.pos ∧ r.pos ≤ text.size := by
      rintro h
      obtain rfl := Option.some.inj h
      exact ⟨le_rfl, hp⟩
    split_ifs at h with hlo hmore
    · obtain ⟨q, hq, hr⟩ := Option.bind_eq_some_iff.mp h
      obtain ⟨h1, h2⟩ := hb.some hp hq
      obtain ⟨h3, h4⟩ := ih _ _ q h2 hr
      exact ⟨h1.trans h3, h4⟩
    · cases hq : body p Option.some with
      | some q =>
        rw [hq] at h
        obtain ⟨h1, h2⟩ := hb.some hp hq
        obtain ⟨h3, h4⟩ := ih _ _ q h2 h
        exact ⟨h1.trans h3, h4⟩
      | none =>
        rw [hq] at h
        exact hstay h
    · exact hstay h

end Loops

/-! ### Trees -/

theorem sameText_le {m : Mode} {i j n : Nat} (hj : j ≤ text.size)
    (h : sameText text m i j n = true) : j + n ≤ text.size := by
  induction n generalizing i j with
  | zero => exact hj
  | succ n ih =>
    rw [sameText, Bool.and_eq_true] at h
    have hlt : j < text.size := by
      by_contra hge
      have hnone : codeAt? text j = none := by
        rw [codeAt?, Array.getElem?_eq_none (not_lt.mp hge)]
        rfl
      rw [hnone] at h
      cases hc : codeAt? text i <;> simp [hc] at h
    have := ih (by omega) h.2
    omega

/-- **A tree hands on only positions from its own up to the end of the text.** -/
theorem Node.advances_run (n : Node) (m : Mode) : Advances text (n.run text m) := by
  induction n generalizing m with
  | empty =>
    intro p k r hp h
    exact .here hp h
  | char t =>
    intro p k r hp h
    rw [Node.run] at h
    cases hc : codeAt? text p.pos with
    | none => simp [hc] at h
    | some c =>
      rw [hc] at h
      dsimp only at h
      split_ifs at h
      have hlt : p.pos < text.size := by
        rw [codeAt?, Option.map_eq_some_iff] at hc
        obtain ⟨a, ha, -⟩ := hc
        exact (Array.getElem?_eq_some_iff.mp ha).1
      exact .moveTo (by omega) hlt h
  | anchor a =>
    intro p k r hp h
    rw [Node.run] at h
    split_ifs at h
    exact .here hp h
  | seq a b iha ihb =>
    intro p k r hp h
    rw [Node.run] at h
    exact (iha m p _ r hp h).bind fun q _ hq hr => ihb m q k r hq hr
  | alt a b iha ihb =>
    intro p k r hp h
    rw [Node.run] at h
    cases ha : a.run text m p k with
    | some r' =>
      rw [ha] at h
      obtain rfl := Option.some.inj h
      exact iha m p k r' hp ha
    | none =>
      rw [ha] at h
      exact ihb m p k r hp h
  | loop mode lo hi body ih =>
    intro p k r hp h
    by_cases hchar : ∃ t, body = .char t
    · obtain ⟨t, rfl⟩ := hchar
      rw [Node.run] at h
      exact advances_charLoop m mode lo hi t p k r hp h
    · have hbody : ∀ t, body = .char t → False := fun t ht => hchar ⟨t, ht⟩
      cases mode with
      | greedy =>
        rw [Node.run] at h
        · exact (ih m).greedyLoop _ 0 none p hp h
        · exact hbody
      | reluctant =>
        rw [Node.run] at h
        · exact (ih m).reluctantLoop _ 0 none p hp h
        · exact hbody
      | possessive =>
        rw [Node.run] at h
        · obtain ⟨q, hq, hr⟩ := Option.bind_eq_some_iff.mp h
          obtain ⟨h1, h2⟩ := (ih m).possessiveLoop _ 0 none p hp hq
          exact ⟨q, h1, h2, hr⟩
        · exact hbody
  | group g body ih =>
    intro p k r hp h
    rw [Node.run] at h
    obtain ⟨q, h1, h2, h3⟩ := ih m { p with opened := (g, p.pos) :: p.opened } _ r hp h
    exact ⟨{ q with closed := (g, q.pos) :: q.closed }, h1, h2, h3⟩
  | «scoped» change body ih =>
    intro p k r hp h
    exact ih (m.apply change) p k r hp h
  | atomic body ih =>
    intro p k r hp h
    rw [Node.run] at h
    obtain ⟨q, hq, hr⟩ := Option.bind_eq_some_iff.mp h
    obtain ⟨h1, h2⟩ := (ih m).some hp hq
    exact ⟨q, h1, h2, hr⟩
  | look dir negated body ih =>
    intro p k r hp h
    -- whatever the body finds, matching goes on where it stood
    have hback : ∀ (o : Option Progress), (o.bind fun q => k (q.moveTo p.pos)) = some r →
        Reaches text p k r := by
      intro o ho
      obtain ⟨q, -, hr⟩ := Option.bind_eq_some_iff.mp ho
      exact ⟨q.moveTo p.pos, le_rfl, hp, hr⟩
    cases dir with
    | ahead =>
      cases negated with
      | false => exact hback _ h
      | true =>
        rw [Node.run] at h
        split_ifs at h
        exact .here hp h
    | behind w =>
      cases negated with
      | false =>
        rw [Node.run] at h
        split_ifs at h
        exact hback _ h
      | true =>
        rw [Node.run] at h
        split_ifs at h
        exact .here hp h
  | backref g =>
    intro p k r hp h
    rw [Node.run] at h
    cases hg : p.recorded? g with
    | none => simp [hg] at h
    | some span =>
      obtain ⟨s, e⟩ := span
      rw [hg] at h
      dsimp only at h
      split_ifs at h with hsame
      exact .moveTo (by omega) (sameText_le hp hsame) h
  | choose g yes no ihy ihn =>
    intro p k r hp h
    rw [Node.run] at h
    split_ifs at h
    · exact ihy m p k r hp h
    · exact ihn m p k r hp h

/-! ### Steps through a tree -/

theorem codeAt?_eq (text : Array Char) (i : Nat) :
    codeAt? text i = (text.toList.drop i).head?.map Char.toNat := by
  simp [codeAt?]

theorem Node.run_seq (m : Mode) (a b : Node) (p : Progress) (k : Continuation) :
    (Node.seq a b).run text m p k = a.run text m p fun q => b.run text m q k := by
  rw [Node.run]

theorem Node.run_seqOf_cons (m : Mode) (n : Node) (ns : List Node) (p : Progress)
    (k : Continuation) :
    (Node.seqOf (n :: ns)).run text m p k =
      n.run text m p fun q => (Node.seqOf ns).run text m q k := by
  cases ns with
  | nil => simp only [Node.seqOf, Node.run]
  | cons n' ns =>
    rw [Node.seqOf, Node.run]
    simp

theorem Node.run_alt (m : Mode) (a b : Node) (p : Progress) (k : Continuation) :
    (Node.alt a b).run text m p k = (a.run text m p k).or (b.run text m p k) := by
  rw [Node.run]
  cases a.run text m p k <;> rfl

/-- A character that is compared with its case consumes itself. -/
theorem Node.run_literal {m : Mode} (hm : m.ignoreCase = false) (n : Nat) (p : Progress)
    (k : Continuation) :
    (Node.char (.literal n)).run text m p k =
      if codeAt? text p.pos = some n then k (p.moveTo (p.pos + 1)) else none := by
  rw [Node.run]
  cases codeAt? text p.pos with
  | none => simp
  | some c => simp [CharTest.accepts, CharTest.sameCode, hm]

/-! ### The first match -/

theorem matchAt_le {p : Pattern} {i e : Nat} (hi : i ≤ text.size) (h : matchAt text p i = some e) :
    i ≤ e ∧ e ≤ text.size := by
  obtain ⟨q, hq, rfl⟩ := Option.map_eq_some_iff.mp h
  exact (p.node.advances_run p.mode).some hi hq

theorem searchUpTo_eq_some {p : Pattern} {n i s e : Nat} (h : searchUpTo text p n i = some (s, e)) :
    i ≤ s ∧ s ≤ i + n ∧ matchAt text p s = some e ∧
      ∀ j, i ≤ j → j < s → matchAt text p j = none := by
  induction n generalizing i with
  | zero =>
    rw [searchUpTo, Option.map_eq_some_iff] at h
    obtain ⟨e', he, hse⟩ := h
    obtain ⟨rfl, rfl⟩ := Prod.mk.inj hse
    exact ⟨le_rfl, le_rfl, he, fun j h1 h2 => absurd h1 (by omega)⟩
  | succ n ih =>
    rw [searchUpTo] at h
    cases hm : matchAt text p i with
    | some e' =>
      rw [hm] at h
      obtain ⟨rfl, rfl⟩ := Prod.mk.inj (Option.some.inj h)
      exact ⟨le_rfl, by omega, hm, fun j h1 h2 => absurd h1 (by omega)⟩
    | none =>
      rw [hm] at h
      obtain ⟨h1, h2, h3, h4⟩ := ih h
      refine ⟨by omega, by omega, h3, fun j hij hjs => ?_⟩
      rcases hij.lt_or_eq with hlt | rfl
      · exact h4 j hlt hjs
      · exact hm

/-- `search` finds the match with the least start, and it lies in the text. -/
theorem search_eq_some {p : Pattern} {pos s e : Nat} (h : search text p pos = some (s, e)) :
    pos ≤ s ∧ s ≤ e ∧ e ≤ text.size ∧ matchAt text p s = some e ∧
      ∀ j, pos ≤ j → j < s → matchAt text p j = none := by
  rw [search] at h
  split_ifs at h with hpos
  obtain ⟨h1, h2, h3, h4⟩ := searchUpTo_eq_some h
  obtain ⟨h5, h6⟩ := matchAt_le (show s ≤ text.size by omega) h3
  exact ⟨h1, h5, h6, h3, h4⟩

/-- No match starts between the place of a search and the match that it finds. -/
theorem search_start_le {p : Pattern} {pos s e q e' : Nat} (hs : search text p pos = some (s, e))
    (hq : pos ≤ q) (hm : matchAt text p q = some e') : s ≤ q := by
  obtain ⟨-, -, -, -, hleast⟩ := search_eq_some hs
  by_contra hlt
  rw [hleast q hq (by omega)] at hm
  simp at hm

theorem searchUpTo_eq_none {p : Pattern} {n i : Nat} (h : searchUpTo text p n i = none) :
    ∀ j, i ≤ j → j ≤ i + n → matchAt text p j = none := by
  induction n generalizing i with
  | zero =>
    intro j hij hji
    obtain rfl : j = i := by omega
    simpa [searchUpTo] using h
  | succ n ih =>
    intro j hij hji
    rw [searchUpTo] at h
    cases hm : matchAt text p i with
    | some e => simp [hm] at h
    | none =>
      rw [hm] at h
      rcases hij.lt_or_eq with hlt | rfl
      · exact ih h j hlt (by omega)
      · exact hm

theorem search_eq_none_iff {p : Pattern} {pos : Nat} :
    search text p pos = none ↔ ∀ j, pos ≤ j → j ≤ text.size → matchAt text p j = none := by
  constructor
  · intro h j hj hsize
    rw [search, if_pos (by omega)] at h
    exact searchUpTo_eq_none h j hj (by omega)
  · intro h
    cases hs : search text p pos with
    | none => rfl
    | some span =>
      obtain ⟨s, e⟩ := span
      obtain ⟨h1, h2, h3, h4, -⟩ := search_eq_some hs
      rw [h s h1 (by omega)] at h4
      simp at h4

/-- A search that starts at a match finds it. -/
theorem search_of_matchAt {p : Pattern} {pos e : Nat} (hpos : pos ≤ text.size)
    (h : matchAt text p pos = some e) : search text p pos = some (pos, e) := by
  rw [search, if_pos hpos]
  cases text.size - pos with
  | zero => simp [searchUpTo, h]
  | succ n => simp [searchUpTo, h]

/-- What a search finds is the first match from its place on. -/
theorem search_of_least {p : Pattern} {pos s e : Nat} (hpos : pos ≤ s) (hsize : s ≤ text.size)
    (hm : matchAt text p s = some e) (hleast : ∀ j, pos ≤ j → j < s → matchAt text p j = none) :
    search text p pos = some (s, e) := by
  cases hs : search text p pos with
  | none => simp [search_eq_none_iff.mp hs s hpos hsize] at hm
  | some span =>
    obtain ⟨s', e'⟩ := span
    obtain ⟨h1, -, -, h4, -⟩ := search_eq_some hs
    have hle := search_start_le hs hpos hm
    obtain rfl : s' = s := by
      by_contra hne
      simp [hleast s' h1 (by omega)] at h4
    rw [hm] at h4
    rw [Option.some.inj h4]

/-- A search finds something right where it starts exactly if the pattern matches there. -/
theorem search_self_iff {p : Pattern} {pos e : Nat} :
    search text p pos = some (pos, e) ↔ pos ≤ text.size ∧ matchAt text p pos = some e := by
  constructor
  · intro h
    obtain ⟨-, h2, h3, h4, -⟩ := search_eq_some h
    exact ⟨by omega, h4⟩
  · rintro ⟨hpos, h⟩
    exact search_of_matchAt hpos h

/-- Where the pattern does not match, the search goes on with the next place. -/
theorem search_succ {p : Pattern} {pos : Nat} (hpos : pos < text.size)
    (h : matchAt text p pos = none) : search text p pos = search text p (pos + 1) := by
  rw [search, if_pos hpos.le, search, if_pos (by omega),
    show text.size - pos = (text.size - (pos + 1)) + 1 by omega, searchUpTo, h]

end PatternLint.Pattern
