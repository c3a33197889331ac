import PatternLint.Proofs.Position.Walk

/-!
# Positions in a text that is put together

Line ends are found from left to right, and only the pair CR LF reaches over two characters.  So where a
text is not cut inside such a pair, the line ends of the whole are those of its front and those of its
back, moved by the length of the front (`lineEnds_append`).

The walk that computes a position first passes the line ends of the front and then goes on in the back
(`advance_append`); what stands behind the offset does not matter to it (`advance_append_of_lt`).
-/

namespace PatternLint

/-- Between two texts stands a CR LF, so that the cut is no line end. -/
def SplitsLineEnd (s t : List Char) : Prop := s.getLast? = some '\r' ∧ t.head? = some '\n'

/-! ### Line ends of the whole -/

theorem SplitsLineEnd.cons {s t : List Char} (h : SplitsLineEnd s t) (c : Char) :
    SplitsLineEnd (c :: s) t :=
  ⟨by rw [List.getLast?_cons, h.1, Option.getD_some], h.2⟩

theorem lineEnds_add (n i : Nat) (text : List Char) :
    lineEnds (n + i) text = (lineEnds i text).map (n + ·) := by
  fun_induction lineEnds i text with
  | case1 i => rfl
  | case2 i rest ih => rw [lineEnds, List.map_cons, ← ih, Nat.add_assoc]
  | case3 i c rest hcr hc ih =>
    rw [lineEnds, if_pos hc, List.map_cons, ← ih, Nat.add_assoc]
    exact hcr
  | case4 i c rest hcr hc ih =>
    rw [lineEnds, if_neg hc, ← ih, Nat.add_assoc]
    exact hcr

theorem lineEnds_le {i e : Nat} {text : List Char} (h : e ∈ lineEnds i text) :
    e ≤ i + text.length := by
  obtain ⟨o, rfl, k, rfl, hk⟩ := mem_lineEnds.mp h
  have hlt : k < text.length := by
    rcases hk with hk | ⟨hk, -⟩
    · exact (List.getElem?_eq_some_iff.mp hk).1
    · exact (List.getElem?_eq_some_iff.mp hk).1
  omega

/-- A character that starts no CR LF in the front starts none in the whole. -/
theorem not_lineEnd_append {c : Char} {rest t : List Char} (hcut : ¬ SplitsLineEnd (c :: rest) t)
    (h : ∀ later, c = '\r' → rest = '\n' :: later → False) :
    ¬ (c = '\r' ∧ (rest ++ t).head? = some '\n') := by
  rintro ⟨rfl, hhead⟩
  cases rest with
  | nil => exact hcut ⟨rfl, hhead⟩
  | cons d rest =>
    obtain rfl : d = '\n' := Option.some.inj hhead
    exact h rest rfl rfl

/-- Where no CR LF is cut, the line ends of the whole are those of its parts. -/
theorem lineEnds_append {i : Nat} {s t : List Char} (hcut : ¬ SplitsLineEnd s t) :
    lineEnds i (s ++ t) = lineEnds i s ++ lineEnds (i + s.length) t := by
  fun_induction lineEnds i s with
  | case1 i => rfl
  | case2 i rest ih =>
    have hrest := ih fun h => hcut ((h.cons '\n').cons '\r')
    rw [List.cons_append, List.cons_append, lineEnds, hrest, List.cons_append, List.length_cons,
      List.length_cons, show i + 2 + rest.length = i + (rest.length + 1 + 1) by omega]
  | case3 i c rest hcr hc ih =>
    have hrest := ih fun h => hcut (h.cons c)
    rw [List.cons_append, lineEnds_cons (not_lineEnd_append hcut hcr), if_pos hc, hrest,
      List.cons_append, List.length_cons, show i + 1 + rest.length = i + (rest.length + 1) by omega]
  | case4 i c rest hcr hc ih =>
    have hrest := ih fun h => hcut (h.cons c)
    rw [List.cons_append, lineEnds_cons (not_lineEnd_append hcut hcr), if_neg hc, hrest,
      List.length_cons, show i + 1 + rest.length = i + (rest.length + 1) by omega]

/-! ### The walk over the line ends of the whole -/

section Walk

variable {o line start : Nat}

theorem advance_of_lt {ends : List Nat} (h : ∀ e ∈ ends, o < e) :
    advance o line start ends = ⟨line, o - start + 1⟩ := by
  cases ends with
  | nil => rfl
  | cons e ends => rw [advance, if_pos (h e List.mem_cons_self)]

/-- Line ends behind the offset do not matter. -/
theorem advance_append_of_lt {front back : List Nat} (h : ∀ e ∈ back, o < e) :
    advance o line start (front ++ back) = advance o line start front := by
  induction front generalizing line start with
  | nil => exact advance_of_lt h
  | cons e front ih => rw [List.cons_append, advance, advance, ih]

/-- Line ends up to the offset are passed; the last of them starts the line to go on from. -/
theorem advance_append {front back : List Nat} (h : ∀ e ∈ front, e ≤ o) :
    advance o line start (front ++ back) =
      advance o (line + front.length) (front.getLastD start) back := by
  induction front generalizing line start with
  | nil => rfl
  | cons e front ih =>
    have he := h e List.mem_cons_self
    rw [List.cons_append, advance, if_neg (by omega), ih fun x hx => h x (List.mem_cons_of_mem _ hx),
      List.length_cons, List.getLastD_cons,
      show line + 1 + front.length = line + (front.length + 1) by omega]

/-- A walk that starts further on goes the same way. -/
theorem advance_add (n lines k line start : Nat) (ends : List Nat) :
    advance (n + k) (lines + line) (n + start) (ends.map (n + ·)) =
      ⟨lines + (advance k line start ends).line, (advance k line start ends).column⟩ := by
  induction ends generalizing line start with
  | nil => simp only [List.map_nil, advance, Nat.add_sub_add_left]
  | cons e ends ih =>
    rw [List.map_cons, advance, advance]
    by_cases hlt : k < e
    · rw [if_pos (by omega), if_pos hlt, Nat.add_sub_add_left]
    · rw [if_neg (by omega), if_neg hlt, Nat.add_assoc, ih]

theorem line_le_advance (o line start : Nat) (ends : List Nat) :
    line ≤ (advance o line start ends).line := by
  induction ends generalizing line start with
  | nil => exact le_rfl
  | cons e ends ih =>
    rw [advance]
    split_ifs
    · exact le_rfl
    · exact (Nat.le_succ line).trans (ih (line + 1) e)

end Walk

/-! ### Positions in the front and in the back -/

section Parts

variable {s t : List Char}

/-- The position of the end of a text. -/
theorem positionAt_length (s : List Char) :
    positionAt s s.length =
      ⟨1 + (lineEnds 0 s).length, s.length - (lineEnds 0 s).getLastD 0 + 1⟩ := by
  have hends : ∀ e ∈ lineEnds 0 s, e ≤ s.length := fun e he => by simpa using lineEnds_le he
  rw [positionAt, ← List.append_nil (lineEnds 0 s), advance_append hends, List.append_nil]
  rfl

theorem positionAt_append_left (hcut : ¬ SplitsLineEnd s t) {o : Nat} (ho : o ≤ s.length) :
    positionAt (s ++ t) o = positionAt s o := by
  rw [positionAt, lineEnds_append hcut, positionAt]
  refine advance_append_of_lt fun e he => ?_
  have := lineEnds_lt he
  omega

/-- In the back, lines are counted from the last line of the front, and so are the columns of the first
line. -/
theorem positionAt_append_right (hcut : ¬ SplitsLineEnd s t) (k : Nat) :
    positionAt (s ++ t) (s.length + k) =
      if 1 < (positionAt t k).line then
        ⟨(positionAt s s.length).line + (positionAt t k).line - 1, (positionAt t k).column⟩
      else
        ⟨(positionAt s s.length).line,
          (positionAt s s.length).column + (positionAt t k).column - 1⟩ := by
  have hpassed : ∀ e ∈ lineEnds 0 s, e ≤ s.length + k := by
    intro e he
    have := lineEnds_le he
    omega
  -- the last line of the front starts inside it
  have hstart : (lineEnds 0 s).getLastD 0 ≤ s.length := by
    rcases List.eq_nil_or_concat (lineEnds 0 s) with hnil | ⟨ends, e, hends⟩
    · simp [hnil]
    · have := lineEnds_le (show e ∈ lineEnds 0 s by simp [hends])
      simpa [hends] using this
  rw [positionAt_length, positionAt, lineEnds_append hcut, advance_append hpassed,
    show 0 + s.length = s.length + 0 by omega, lineEnds_add]
  unfold positionAt
  cases lineEnds 0 t with
  | nil =>
    simp only [List.map_nil, advance, Nat.lt_irrefl, if_false]
    congr 1
    omega
  | cons e ends =>
    rw [List.map_cons, advance, advance]
    by_cases hlt : k < e
    · rw [if_pos (by omega), if_pos hlt, if_neg (by simp)]
      congr 1
      dsimp only
      omega
    · have hline := line_le_advance k (1 + 1) e ends
      rw [if_neg (by omega), if_neg hlt, if_pos (by omega),
        show 1 + (lineEnds 0 s).length + 1 = (lineEnds 0 s).length + (1 + 1) by omega, advance_add]
      congr 1
      dsimp only
      omega

/-- The cut of a CR LF is the end of a line in the front, and inside a line in the whole. -/
theorem positionAt_split (hcut : SplitsLineEnd s t) :
    (∀ o < s.length, positionAt (s ++ t) o = positionAt s o) ∧
      positionAt (s ++ t) s.length ≠ positionAt s s.length := by
  obtain ⟨front, rfl⟩ := List.getLast?_eq_some_iff.mp hcut.1
  obtain ⟨back, rfl⟩ := List.head?_eq_some_iff.mp hcut.2
  have hwhole : ¬ SplitsLineEnd front ('\r' :: '\n' :: back) := by simp [SplitsLineEnd]
  have hfront : ¬ SplitsLineEnd front ['\r'] := by simp [SplitsLineEnd]
  have hpassed : ∀ e ∈ lineEnds 0 front, e ≤ front.length + 1 := by
    intro e he
    have := lineEnds_le he
    omega
  rw [List.append_assoc, List.singleton_append]
  constructor
  · intro o ho
    have hle : o ≤ front.length := by simpa [Nat.lt_succ_iff] using ho
    rw [positionAt_append_left hwhole hle, positionAt_append_left hfront hle]
  · intro heq
    have hline := congrArg Position.line heq
    rw [positionAt_length, positionAt, lineEnds_append hwhole, lineEnds_append hfront,
      List.length_append, List.length_singleton, advance_append hpassed] at hline
    simp [lineEnds, advance] at hline

end Parts

/-- **Positions of a text that is put together come from its parts.**  In the front they are those of the
front, at all offsets but the cut of a CR LF.  Where no CR LF is cut, the back goes on in the last line of
the front: its later lines are counted from there and keep their columns, and the columns of its first line
are counted from the last column of the front. -/
theorem positionOf_append (s t : String) :
    (∀ o : Nat, o ≤ s.length →
      ∃ p, positionOf s.toList o = .ok p ∧
        (positionOf (s ++ t).toList o = .ok p ↔
          ¬ (o = s.length ∧ SplitsLineEnd s.toList t.toList))) ∧
    (¬ SplitsLineEnd s.toList t.toList → ∀ k : Nat, k ≤ t.length →
      ∃ p q, positionOf s.toList s.length = .ok p ∧ positionOf t.toList k = .ok q ∧ 1 ≤ q.line ∧
        positionOf (s ++ t).toList (s.length + k : Nat) =
          .ok (if 1 < q.line then ⟨p.line + q.line - 1, q.column⟩
            else ⟨p.line, p.column + q.column - 1⟩)) := by
  simp only [← String.length_toList, String.toList_append]
  have hwhole : ∀ o ≤ s.toList.length + t.toList.length,
      positionOf (s.toList ++ t.toList) o = .ok (positionAt (s.toList ++ t.toList) o) :=
    fun o ho => positionOf_eq (by rwa [List.length_append])
  constructor
  · intro o ho
    refine ⟨positionAt s.toList o, positionOf_eq ho, ?_⟩
    rw [hwhole o (by omega), Except.ok.injEq]
    by_cases hcut : SplitsLineEnd s.toList t.toList
    · obtain ⟨hbefore, hat⟩ := positionAt_split hcut
      rcases ho.lt_or_eq with hlt | rfl
      · simp [hbefore o hlt, hlt.ne]
      · simp [hat, hcut]
    · simp [positionAt_append_left hcut ho, hcut]
  · intro hcut k hk
    refine ⟨_, _, positionOf_eq le_rfl, positionOf_eq hk, (locates_positionAt _ k).line_pos, ?_⟩
    rw [hwhole _ (by omega), positionAt_append_right hcut]

-- a CR that ends the front starts a new line there, but not before an LF
example : positionOf "a\r".toList 2 = .ok ⟨2, 1⟩ ∧ positionOf "a\r\n".toList 2 = .ok ⟨1, 3⟩ := by
  decide

end PatternLint
