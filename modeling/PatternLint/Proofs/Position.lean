import Mathlib.Data.List.Pairwise
import Mathlib.Tactic
import PatternLint.Position

/-!
# Lines and columns from the starts of the lines

`IsLineEnd` says where the line ends of a text stand, character by character, and `lineEnds` lists
exactly these places in increasing order.  `Locates starts o p` says that the line of `p` is the last
one that starts at or before `o` and that its column counts the characters from there.

There is one such position for every offset (`Locates.unique`), and both the walk over the line ends
and the look-up in the table find it; so they agree.  Positions grow strictly with the offset, and the
line grows exactly where a line end lies between two offsets.
-/

namespace PatternLint

/-! ### Line ends -/

/-- A line ends just before `o`: after a line feed, or after a carriage return that no line feed
follows. -/
def IsLineEnd (text : List Char) (o : Nat) : Prop :=
  ∃ k, o = k + 1 ∧ (text[k]? = some '\n' ∨ text[k]? = some '\r' ∧ text[k + 1]? ≠ some '\n')

theorem not_isLineEnd_nil (o : Nat) : ¬ IsLineEnd [] o := by
  rintro ⟨k, -, h | h⟩
  · simp at h
  · simp at h

theorem not_isLineEnd_zero (text : List Char) : ¬ IsLineEnd text 0 := by
  rintro ⟨k, hk, -⟩
  omega

theorem isLineEnd_one {c : Char} {rest : List Char} :
    IsLineEnd (c :: rest) 1 ↔ c = '\n' ∨ c = '\r' ∧ rest.head? ≠ some '\n' := by
  constructor
  · rintro ⟨k, hk, h⟩
    obtain rfl : k = 0 := by omega
    simpa [List.head?_eq_getElem?] using h
  · intro h
    exact ⟨0, rfl, by simpa [List.head?_eq_getElem?] using h⟩

theorem isLineEnd_succ {c : Char} {rest : List Char} {o : Nat} (ho : o ≠ 0) :
    IsLineEnd (c :: rest) (o + 1) ↔ IsLineEnd rest o := by
  constructor
  · rintro ⟨k, hk, h⟩
    obtain ⟨j, rfl⟩ : ∃ j, k = j + 1 := ⟨k - 1, by omega⟩
    exact ⟨j, by omega, by simpa using h⟩
  · rintro ⟨k, rfl, h⟩
    exact ⟨k + 1, rfl, by simpa using h⟩

/-- The line ends are listed exactly. -/
theorem mem_lineEnds {i e : Nat} {text : List Char} :
    e ∈ lineEnds i text ↔ ∃ o, e = i + o ∧ IsLineEnd text o := by
  fun_induction lineEnds i text with
  | case1 i => simp [not_isLineEnd_nil]
  | case2 i rest ih =>
    rw [List.mem_cons, ih]
    constructor
    · rintro (rfl | ⟨o, rfl, h⟩)
      · exact ⟨2, rfl, (isLineEnd_succ (by omega)).mpr (isLineEnd_one.mpr (Or.inl rfl))⟩
      · have ho : o ≠ 0 := by rintro rfl; exact not_isLineEnd_zero rest h
        exact ⟨o + 2, by omega, (isLineEnd_succ (by omega)).mpr ((isLineEnd_succ ho).mpr h)⟩
    · rintro ⟨o, rfl, h⟩
      match o with
      | 0 => exact absurd h (not_isLineEnd_zero _)
      | 1 => simp [isLineEnd_one] at h
      | 2 => exact Or.inl rfl
      | o + 3 =>
        rw [isLineEnd_succ (by omega), isLineEnd_succ (by omega)] at h
        exact Or.inr ⟨o + 1, by omega, h⟩
  | case3 i c rest hcr hc ih =>
    -- this carriage return stands alone, so `c` ends a line by itself
    have hone : IsLineEnd (c :: rest) 1 := by
      rw [isLineEnd_one]
      rcases hc with rfl | rfl
      · refine Or.inr ⟨rfl, fun h => ?_⟩
        obtain ⟨later, rfl⟩ := List.head?_eq_some_iff.mp h
        exact hcr later rfl rfl
      · exact Or.inl rfl
    rw [List.mem_cons, ih]
    constructor
    · rintro (rfl | ⟨o, rfl, h⟩)
      · exact ⟨1, rfl, hone⟩
      · have ho : o ≠ 0 := by rintro rfl; exact not_isLineEnd_zero rest h
        exact ⟨o + 1, by omega, (isLineEnd_succ ho).mpr h⟩
    · rintro ⟨o, rfl, h⟩
      match o with
      | 0 => exact absurd h (not_isLineEnd_zero _)
      | 1 => exact Or.inl rfl
      | o + 2 => exact Or.inr ⟨o + 1, by omega, (isLineEnd_succ (by omega)).mp h⟩
  | case4 i c rest hcr hc ih =>
    rw [ih]
    constructor
    · rintro ⟨o, rfl, h⟩
      have ho : o ≠ 0 := by rintro rfl; exact not_isLineEnd_zero rest h
      exact ⟨o + 1, by omega, (isLineEnd_succ ho).mpr h⟩
    · rintro ⟨o, rfl, h⟩
      match o with
      | 0 => exact absurd h (not_isLineEnd_zero _)
      | 1 =>
        rw [isLineEnd_one] at h
        tauto
      | o + 2 => exact ⟨o + 1, by omega, (isLineEnd_succ (by omega)).mp h⟩

theorem lineEnds_lt {i e : Nat} {text : List Char} (h : e ∈ lineEnds i text) : i < e := by
  obtain ⟨o, rfl, k, rfl, -⟩ := mem_lineEnds.mp h
  omega

theorem lineEnds_sorted (i : Nat) (text : List Char) : (lineEnds i text).Pairwise (· < ·) := by
  fun_induction lineEnds i text with
  | case1 i => exact .nil
  | case2 i rest ih => exact .cons (fun e he => lineEnds_lt he) ih
  | case3 i c rest hcr hc ih => exact .cons (fun e he => lineEnds_lt he) ih
  | case4 i c rest hcr hc ih => exact ih

/-- The offsets at which the lines of a text start. -/
def lineStarts (text : List Char) : List Nat := 0 :: lineEnds 0 text

theorem lineStarts_sorted (text : List Char) : (lineStarts text).Pairwise (· < ·) :=
  .cons (fun _ he => lineEnds_lt he) (lineEnds_sorted 0 text)

theorem sorted_le {starts : List Nat} (h : starts.Pairwise (· < ·)) {i j a b : Nat} (hij : i ≤ j)
    (ha : starts[i]? = some a) (hb : starts[j]? = some b) : a ≤ b := by
  obtain ⟨hi, rfl⟩ := List.getElem?_eq_some_iff.mp ha
  obtain ⟨hj, rfl⟩ := List.getElem?_eq_some_iff.mp hb
  rcases hij.lt_or_eq with hij | rfl
  · exact (List.pairwise_iff_getElem.mp h i j hi hj hij).le
  · exact le_rfl

/-! ### The position of an offset -/

/-- The line of `p` is the last one that starts at or before `o`, and its column counts from there. -/
structure Locates (starts : List Nat) (o : Nat) (p : Position) : Prop where
  line_pos : 1 ≤ p.line
  column_pos : 1 ≤ p.column
  column_le : p.column ≤ o + 1
  start : starts[p.line - 1]? = some (o + 1 - p.column)
  next : ∀ n, starts[p.line]? = some n → o < n

section Located

variable {starts : List Nat} {o o' : Nat} {p p' : Position}

theorem Locates.line_le_length (h : Locates starts o p) : p.line ≤ starts.length := by
  obtain ⟨hlt, -⟩ := List.getElem?_eq_some_iff.mp h.start
  omega

/-- The line grows exactly where a line starts behind `o` and up to `o'`. -/
theorem Locates.line_lt_iff (hs : starts.Pairwise (· < ·)) (h : Locates starts o p)
    (h' : Locates starts o' p') : p.line < p'.line ↔ ∃ e ∈ starts, o < e ∧ e ≤ o' := by
  have hpos := h.column_pos
  have hpos' := h'.column_pos
  constructor
  · intro hlt
    have hlen := h'.line_le_length
    obtain ⟨e, he⟩ : ∃ e, starts[p.line]? = some e :=
      ⟨_, List.getElem?_eq_getElem (by omega)⟩
    have hle := sorted_le hs (by omega) he h'.start
    exact ⟨e, List.mem_of_getElem? he, h.next e he, by omega⟩
  · rintro ⟨e, he, hoe, heo⟩
    obtain ⟨j, hj⟩ := List.getElem?_of_mem he
    by_contra hle
    -- `e` starts a line after that of `p`, hence after that of `p'`
    have hpj : p.line ≤ j := by
      by_contra hlt
      have := sorted_le hs (show j ≤ p.line - 1 by omega) hj h.start
      omega
    have hjl := (List.getElem?_eq_some_iff.mp hj).1
    obtain ⟨n, hn⟩ : ∃ n, starts[p'.line]? = some n :=
      ⟨_, List.getElem?_eq_getElem (by omega)⟩
    have := h'.next n hn
    have := sorted_le hs (by omega) hn hj
    omega

theorem Locates.line_mono (hs : starts.Pairwise (· < ·)) (h : Locates starts o p)
    (h' : Locates starts o' p') (ho : o ≤ o') : p.line ≤ p'.line := by
  by_contra hlt
  obtain ⟨e, -, h1, h2⟩ := (h'.line_lt_iff hs h).mp (by omega)
  omega

theorem Locates.column_of_line_eq (h : Locates starts o p) (h' : Locates starts o' p')
    (hl : p.line = p'.line) : o + p'.column = o' + p.column := by
  have heq := h.start
  rw [hl, h'.start, Option.some.injEq] at heq
  have := h.column_le
  have := h'.column_le
  omega

/-- An offset has one position. -/
theorem Locates.unique (hs : starts.Pairwise (· < ·)) (h : Locates starts o p)
    (h' : Locates starts o p') : p = p' := by
  have hl : p.line = p'.line := le_antisymm (h.line_mono hs h' le_rfl) (h'.line_mono hs h le_rfl)
  have hc := h.column_of_line_eq h' hl
  obtain ⟨line, column⟩ := p
  obtain ⟨line', column'⟩ := p'
  simp only at hl hc
  rw [hl, show column = column' by omega]

/-- Positions grow strictly with the offset, by lines first and by columns in a line. -/
theorem Locates.lt_of_lt (hs : starts.Pairwise (· < ·)) (h : Locates starts o p)
    (h' : Locates starts o' p') (ho : o < o') :
    p.line < p'.line ∨ p.line = p'.line ∧ p.column < p'.column := by
  rcases (h.line_mono hs h' ho.le).lt_or_eq with hlt | heq
  · exact Or.inl hlt
  · have := h.column_of_line_eq h' heq
    exact Or.inr ⟨heq, by omega⟩

end Located

/-! ### The walk over the line ends -/

theorem locates_advance {starts ends : List Nat} {o line start : Nat} (done : List Nat)
    (hsplit : starts = done ++ start :: ends) (hline : line = done.length + 1) (ho : start ≤ o) :
    Locates starts o (advance o line start ends) := by
  induction ends generalizing done line start with
  | nil =>
    refine ⟨by simp [advance, hline], by simp [advance], by simp [advance], ?_, ?_⟩
    · simp only [advance, hsplit, hline, Nat.add_sub_cancel, List.getElem?_append_right le_rfl,
        Nat.sub_self, List.getElem?_cons_zero, Option.some.injEq]
      omega
    · intro n hn
      simp [advance, hsplit, hline] at hn
  | cons e ends ih =>
    rw [advance]
    by_cases hlt : o < e
    · rw [if_pos hlt]
      refine ⟨by simp [hline], by simp, by simp, ?_, ?_⟩
      · simp only [hsplit, hline, Nat.add_sub_cancel, List.getElem?_append_right le_rfl,
          Nat.sub_self, List.getElem?_cons_zero, Option.some.injEq]
        omega
      · intro n hn
        simp [hsplit, hline] at hn
        omega
    · rw [if_neg hlt]
      exact ih (done ++ [start]) (by simp [hsplit]) (by simp [hline]) (by omega)

theorem checkOffset_natCast {n o : Nat} (h : o ≤ n) : checkOffset n (o : Int) = .ok o := by
  rw [checkOffset, if_pos ⟨by omega, by omega⟩, Int.toNat_natCast]

/-- The position of an offset of the text. -/
def positionAt (text : List Char) (o : Nat) : Position := advance o 1 0 (lineEnds 0 text)

theorem locates_positionAt (text : List Char) (o : Nat) :
    Locates (lineStarts text) o (positionAt text o) :=
  locates_advance [] rfl rfl (Nat.zero_le o)

theorem positionOf_eq {text : List Char} {o : Nat} (h : o ≤ text.length) :
    positionOf text o = .ok (positionAt text o) := by
  rw [positionOf, checkOffset_natCast h]
  rfl

/-! ### The look-up in the table -/

theorem countUpTo_spec {starts : Array Nat} {x lo hi : Nat} (hs : starts.toList.Pairwise (· < ·))
    (hhi : hi ≤ starts.size) (hle : lo ≤ hi)
    (hlow : ∀ i a, i < lo → starts[i]? = some a → a ≤ x)
    (hhigh : ∀ i a, hi ≤ i → starts[i]? = some a → x < a) :
    LineIndex.countUpTo starts x lo hi ≤ starts.size ∧
      (∀ i a, i < LineIndex.countUpTo starts x lo hi → starts[i]? = some a → a ≤ x) ∧
      ∀ i a, LineIndex.countUpTo starts x lo hi ≤ i → starts[i]? = some a → x < a := by
  have hmono : ∀ {i j a b : Nat}, i ≤ j → starts[i]? = some a → starts[j]? = some b → a ≤ b := by
    intro i j a b hij ha hb
    exact sorted_le hs hij (by simpa using ha) (by simpa using hb)
  fun_induction LineIndex.countUpTo starts x lo hi with
  | case1 lo hi hlt mid hx ih =>
    have hmid : starts[mid]? = some (starts.getD mid 0) := by
      simp [Array.getD, show mid < starts.size by omega]
    refine ih (by omega) (by omega) hlow ?_
    intro i a hi' ha
    exact lt_of_lt_of_le hx (hmono hi' hmid ha)
  | case2 lo hi hlt mid hx ih =>
    have hmid : starts[mid]? = some (starts.getD mid 0) := by
      simp [Array.getD, show mid < starts.size by omega]
    refine ih hhi (by omega) ?_ hhigh
    intro i a hi' ha
    exact le_trans (hmono (by omega) ha hmid) (not_lt.mp hx)
  | case3 lo hi hlt =>
    obtain rfl : lo = hi := by omega
    exact ⟨hhi, hlow, hhigh⟩

theorem LineIndex.locates_position {text : List Char} {o : Nat} (h : o ≤ text.length) :
    ∃ p, (LineIndex.ofText text).position o = .ok p ∧ Locates (lineStarts text) o p := by
  have hchk : checkOffset (LineIndex.ofText text).length (o : Int) = .ok o := checkOffset_natCast h
  set starts := (lineStarts text).toArray with hstarts
  have hsorted : starts.toList.Pairwise (· < ·) := lineStarts_sorted text
  obtain ⟨hsize, hlow, hhigh⟩ := countUpTo_spec (x := o) hsorted le_rfl (Nat.zero_le starts.size)
    (by intro i a hi; omega)
    (by intro i a hi ha; rw [Array.getElem?_eq_none hi] at ha; simp at ha)
  set line := LineIndex.countUpTo starts o 0 starts.size with hline
  refine ⟨⟨line, o - starts.getD (line - 1) 0 + 1⟩, ?_, ?_⟩
  · rw [LineIndex.position, hchk]
    rfl
  -- the first line starts at 0, so the table has an entry up to `o`
  have hpos : 1 ≤ line := by
    by_contra hlt
    have := hhigh 0 0 (by omega) (by simp [hstarts, lineStarts])
    omega
  have hget : starts[line - 1]? = some (starts.getD (line - 1) 0) := by
    simp [Array.getD, show line - 1 < starts.size by omega]
  have hle := hlow (line - 1) _ (by omega) hget
  refine ⟨hpos, by simp, by simp, ?_, ?_⟩
  · simp only
    rw [show o + 1 - (o - starts.getD (line - 1) 0 + 1) = starts.getD (line - 1) 0 by omega, ← hget]
    simp [hstarts]
  · intro n hn
    exact hhigh line n le_rfl (by simpa [hstarts] using hn)

theorem LineIndex.position_eq {text : List Char} {o : Nat} (h : o ≤ text.length) :
    (LineIndex.ofText text).position o = .ok (positionAt text o) := by
  obtain ⟨p, hp, hloc⟩ := LineIndex.locates_position h
  rw [hp, hloc.unique (lineStarts_sorted text) (locates_positionAt text o)]

/-- The table and the walk give the same answer, or the same error, for every offset. -/
theorem LineIndex.position_ofText (text : List Char) (offset : Int) :
    (LineIndex.ofText text).position offset = positionOf text offset := by
  by_cases h : 0 ≤ offset ∧ offset ≤ text.length
  · obtain ⟨o, rfl⟩ := Int.eq_ofNat_of_zero_le h.1
    rw [LineIndex.position_eq (by omega), positionOf_eq (by omega)]
  · have hchk : checkOffset text.length offset = .error ⟨offset, text.length⟩ := if_neg h
    rw [LineIndex.position, positionOf, hchk]
    exact congrArg (· >>= _) hchk

end PatternLint
