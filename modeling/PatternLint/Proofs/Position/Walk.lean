import PatternLint.Proofs.Pattern.Scan
import PatternLint.Proofs.Position

/-!
# Positions against a walk over the text

`walkedStarts` finds the starts of the lines offset by offset: CR LF counts once, CR and LF alone count
each.  The same places stand behind the matches of the pattern `\r\n|\r|\n` (`map_stop_lineEnd`)
and in the list that positions are computed from (`walkedStarts_eq`).

Against this walk a position is the offset in another form: the start of its line and its column lead
back to the offset, and the next line starts behind it.
-/

namespace PatternLint

/-! ### The walk -/

/-- The offsets behind the line ends from offset `i` on. -/
def walkFrom (text : List Char) (i : Nat) : List Nat :=
  if i < text.length then
    if text[i]? = some '\r' ∧ text[i + 1]? = some '\n' then (i + 2) :: walkFrom text (i + 2)
    else if text[i]? = some '\r' ∨ text[i]? = some '\n' then (i + 1) :: walkFrom text (i + 1)
    else walkFrom text (i + 1)
  else []
termination_by text.length - i

/-- The starts of the lines, walked over by hand. -/
def walkedStarts (text : List Char) : List Nat := 0 :: walkFrom text 0

theorem lineEnds_cons {i : Nat} {c : Char} {rest : List Char}
    (h : ¬ (c = '\r' ∧ rest.head? = some '\n')) :
    lineEnds i (c :: rest) =
      if c = '\r' ∨ c = '\n' then (i + 1) :: lineEnds (i + 1) rest else lineEnds (i + 1) rest := by
  rw [lineEnds]
  rintro later rfl rfl
  exact h ⟨rfl, rfl⟩

theorem drop_of_getElem? {text : List Char} {i : Nat} {c : Char} (h : text[i]? = some c) :
    text.drop i = c :: text.drop (i + 1) := by
  obtain ⟨hi, rfl⟩ := List.getElem?_eq_some_iff.mp h
  exact List.drop_eq_getElem_cons hi

theorem walkFrom_eq_lineEnds (text : List Char) (i : Nat) :
    walkFrom text i = lineEnds i (text.drop i) := by
  fun_induction walkFrom text i with
  | case1 i hi hcrlf ih =>
    rw [ih, drop_of_getElem? hcrlf.1, drop_of_getElem? hcrlf.2, lineEnds]
  | case2 i hi hcrlf hc ih =>
    have hget : text[i]? = some text[i] := List.getElem?_eq_getElem hi
    rw [hget, Option.some.injEq, Option.some.injEq] at hc
    rw [hget, Option.some.injEq, ← List.head?_drop] at hcrlf
    rw [ih, drop_of_getElem? hget, lineEnds_cons hcrlf, if_pos hc]
  | case3 i hi hcrlf hc ih =>
    have hget : text[i]? = some text[i] := List.getElem?_eq_getElem hi
    rw [hget, Option.some.injEq, Option.some.injEq] at hc
    rw [hget, Option.some.injEq, ← List.head?_drop] at hcrlf
    rw [ih, drop_of_getElem? hget, lineEnds_cons hcrlf, if_neg hc]
  | case4 i hi => rw [List.drop_eq_nil_of_le (not_lt.mp hi), lineEnds]

theorem walkedStarts_eq (text : List Char) : walkedStarts text = lineStarts text := by
  rw [walkedStarts, walkFrom_eq_lineEnds, List.drop_zero, lineStarts]

/-! ### The pattern of a line end -/

namespace Pattern

/-- CR LF, or CR, or LF, tried in this order. -/
def lineEnd : Pattern where
  node := .alt (.seq (.char (.literal 13)) (.char (.literal 10)))
    (.alt (.char (.literal 13)) (.char (.literal 10)))
  mode := Mode.ofFlags [.multiline]

theorem compile_lineEnd : compile "\\r\\n|\\r|\\n" false = .ok lineEnd := rfl

theorem matchAt_lineEnd (text : Array Char) (i : Nat) :
    matchAt text lineEnd i =
      if codeAt? text i = some 13 ∧ codeAt? text (i + 1) = some 10 then some (i + 2)
      else if codeAt? text i = some 13 ∨ codeAt? text i = some 10 then some (i + 1)
      else none := by
  have hm : (Mode.ofFlags [.multiline]).ignoreCase = false := rfl
  simp only [matchAt, lineEnd, Node.run_seq, Node.run_alt, Node.run_literal hm, Progress.start,
    Progress.moveTo]
  by_cases hcr : codeAt? text i = some 13
  · by_cases hlf : codeAt? text (i + 1) = some 10
    · simp [hcr, hlf]
    · simp [hcr, hlf]
  · by_cases hlf : codeAt? text i = some 10
    · simp [hlf]
    · simp [hcr, hlf]

/-! What is left of the text from a place on decides whether a line ends there. -/

section Rest

variable {text : Array Char} {i : Nat}

theorem codeAt?_of_drop {c : Char} {rest : List Char} (h : text.toList.drop i = c :: rest) :
    codeAt? text i = some c.toNat ∧ codeAt? text (i + 1) = rest.head?.map Char.toNat := by
  rw [codeAt?_eq, codeAt?_eq, ← List.drop_drop, h]
  exact ⟨rfl, rfl⟩

theorem matchAt_lineEnd_cons {c : Char} {rest : List Char} (h : text.toList.drop i = c :: rest) :
    matchAt text lineEnd i =
      if c = '\r' ∧ rest.head? = some '\n' then some (i + 2)
      else if c = '\r' ∨ c = '\n' then some (i + 1)
      else none := by
  obtain ⟨h0, h1⟩ := codeAt?_of_drop h
  have hnext : rest.head?.map Char.toNat = some 10 ↔ rest.head? = some '\n' := by
    cases rest.head? with
    | none => simp
    | some d => simp [← Char.toNat_inj]
  rw [matchAt_lineEnd, h0, h1]
  simp [hnext, ← Char.toNat_inj]

theorem lt_size_of_drop {c : Char} {rest : List Char} (h : text.toList.drop i = c :: rest) :
    i < text.size := by
  by_contra hge
  rw [List.drop_eq_nil_of_le (by simpa using hge)] at h
  simp at h

/-- The scan for line ends stops behind exactly the places that `lineEnds` lists. -/
theorem scans_lineEnd {rest : List Char} (h : text.toList.drop i = rest) :
    ∃ l, Scans text lineEnd i l ∧ l.map (·.2) = lineEnds i rest := by
  fun_induction lineEnds i rest with
  | case1 i =>
    have hsize : text.size ≤ i := by simpa using List.drop_eq_nil_iff.mp h
    refine ⟨[], ?_, rfl⟩
    rcases hsize.lt_or_eq with hlt | rfl
    · exact .past hlt
    · refine .missed le_rfl (search_eq_none_iff.mpr fun j hj hsize => ?_)
      obtain rfl : j = text.size := by omega
      rw [matchAt_lineEnd, codeAt?_eq, h]
      simp
  | case2 i rest ih =>
    have hm := matchAt_lineEnd_cons h
    rw [if_pos ⟨rfl, rfl⟩] at hm
    obtain ⟨l, hl, hends⟩ := ih (by rw [← List.drop_drop, h]; rfl)
    exact ⟨(i, i + 2) :: l, hl.take (by omega) (lt_size_of_drop h).le hm, by simp [hends]⟩
  | case3 i c rest hcr hc ih =>
    have hcrlf : ¬ (c = '\r' ∧ rest.head? = some '\n') := by
      rintro ⟨rfl, hlf⟩
      obtain ⟨later, rfl⟩ := List.head?_eq_some_iff.mp hlf
      exact hcr later rfl rfl
    have hm := matchAt_lineEnd_cons h
    rw [if_neg hcrlf, if_pos hc] at hm
    obtain ⟨l, hl, hends⟩ := ih (by rw [← List.drop_drop, h]; rfl)
    exact ⟨(i, i + 1) :: l, hl.take (by omega) (lt_size_of_drop h).le hm, by simp [hends]⟩
  | case4 i c rest hcr hc ih =>
    have hm := matchAt_lineEnd_cons h
    rw [if_neg (fun hcrlf => hc (Or.inl hcrlf.1)), if_neg hc] at hm
    obtain ⟨l, hl, hends⟩ := ih (by rw [← List.drop_drop, h]; rfl)
    exact ⟨l, hl.skip (lt_size_of_drop h) hm, hends⟩

end Rest

/-- The matches of `\r\n|\r|\n` end where the lines do. -/
theorem map_stop_lineEnd (text : String) :
    (findMatches text lineEnd).map (·.stop) = lineEnds 0 text.toList := by
  have hwhole : text.toList.toArray.toList.drop 0 = text.toList := rfl
  obtain ⟨l, hl, hends⟩ := scans_lineEnd hwhole
  have hspans := hl.eq_of_lists (scans_spans text.toList.toArray lineEnd).lists
  rw [← hends, ← hspans, ← map_span_findMatches, List.map_map]
  rfl

end Pattern

/-! ### Offsets and positions -/

theorem positionOf_eq_error {text : List Char} {offset : Int}
    (h : ¬ (0 ≤ offset ∧ offset ≤ text.length)) :
    positionOf text offset = .error ⟨offset, text.length⟩ := by
  rw [positionOf, checkOffset, if_neg h]
  rfl

theorem positionOf_eq_ok_iff {text : List Char} {offset : Int} {p : Position} :
    positionOf text offset = .ok p ↔
      ∃ o : Nat, offset = o ∧ o ≤ text.length ∧ p = positionAt text o := by
  constructor
  · intro h
    by_cases hin : 0 ≤ offset ∧ offset ≤ text.length
    · obtain ⟨o, rfl⟩ := Int.eq_ofNat_of_zero_le hin.1
      rw [positionOf_eq (by omega)] at h
      exact ⟨o, rfl, by omega, (Except.ok.inj h).symm⟩
    · rw [positionOf_eq_error hin] at h
      cases h
  · rintro ⟨o, rfl, ho, rfl⟩
    exact positionOf_eq ho

/-- **The table of line starts and the walk over the text have the same outcome** for every offset: the
same position inside the text, and the same message outside of it. -/
theorem position_outcomes_agree (text : String) (offset : Int) :
    (0 ≤ offset ∧ offset ≤ text.length ∧
      ∃ p, (LineIndex.ofText text.toList).position offset = .ok p ∧
        positionOf text.toList offset = .ok p) ∨
    ((offset < 0 ∨ text.length < offset) ∧
      ∃ e, (LineIndex.ofText text.toList).position offset = .error e ∧
        positionOf text.toList offset = .error e ∧
        e.message = "offset " ++ toString offset ++ " is outside the text (length " ++
          toString text.length ++ ")") := by
  rw [LineIndex.position_ofText, ← String.length_toList]
  by_cases h : 0 ≤ offset ∧ offset ≤ text.toList.length
  · obtain ⟨o, rfl⟩ := Int.eq_ofNat_of_zero_le h.1
    have hp : positionOf text.toList o = .ok (positionAt text.toList o) := positionOf_eq (by omega)
    exact Or.inl ⟨h.1, h.2, positionAt text.toList o, hp, hp⟩
  · have he := positionOf_eq_error h
    exact Or.inr ⟨by omega, ⟨offset, text.toList.length⟩, he, he, rfl⟩

theorem position_lt_of_lt {text : List Char} {o o' : Int} {p p' : Position}
    (h : positionOf text o = .ok p) (h' : positionOf text o' = .ok p') (ho : o < o') :
    p.line < p'.line ∨ p.line = p'.line ∧ p.column < p'.column := by
  obtain ⟨n, rfl, -, rfl⟩ := positionOf_eq_ok_iff.mp h
  obtain ⟨n', rfl, -, rfl⟩ := positionOf_eq_ok_iff.mp h'
  exact (locates_positionAt text n).lt_of_lt (lineStarts_sorted text) (locates_positionAt text n')
    (by omega)

/-- **A position is its offset in another form.**  The line starts that a walk over the text finds are
those that the pattern `\r\n|\r|\n` finds; the start of the line and the column lead back to the
offset, which lies before the next line.  So positions grow strictly with the offset, and no two offsets
share one. -/
theorem positionOf_inverts_walk (text : String) :
    (∃ p, Pattern.compile "\\r\\n|\\r|\\n" false = .ok p ∧
      walkedStarts text.toList = 0 :: (Pattern.findMatches text p).map (·.stop)) ∧
    (∀ offset : Int, 0 ≤ offset → offset ≤ text.length →
      ∃ (p : Position) (start : Nat), positionOf text.toList offset = .ok p ∧
        1 ≤ p.line ∧ p.line ≤ (walkedStarts text.toList).length ∧ 1 ≤ p.column ∧
        (walkedStarts text.toList)[p.line - 1]? = some start ∧
        (start : Int) + p.column - 1 = offset ∧
        ∀ next, (walkedStarts text.toList)[p.line]? = some next → offset < next) ∧
    (∀ o o' p p', positionOf text.toList o = .ok p → positionOf text.toList o' = .ok p' → o < o' →
      p.line < p'.line ∨ p.line = p'.line ∧ p.column < p'.column) ∧
    (∀ o o' p, positionOf text.toList o = .ok p → positionOf text.toList o' = .ok p → o = o') := by
  refine ⟨⟨Pattern.lineEnd, Pattern.compile_lineEnd, ?_⟩, ?_, ?_, ?_⟩
  · rw [walkedStarts_eq, lineStarts, Pattern.map_stop_lineEnd]
  · intro offset hlo hhi
    obtain ⟨o, rfl⟩ := Int.eq_ofNat_of_zero_le hlo
    have ho : o ≤ text.toList.length := by
      rw [String.length_toList]
      omega
    have hloc := locates_positionAt text.toList o
    have hle := hloc.column_le
    rw [walkedStarts_eq]
    refine ⟨positionAt text.toList o, _, positionOf_eq ho, hloc.line_pos, hloc.line_le_length,
      hloc.column_pos, hloc.start, by omega, ?_⟩
    intro next hnext
    exact_mod_cast hloc.next next hnext
  · intro o o' p p' h h' ho
    exact position_lt_of_lt h h' ho
  · intro o o' p h h'
    rcases lt_trichotomy o o' with hlt | heq | hgt
    · have := position_lt_of_lt h h' hlt
      omega
    · exact heq
    · have := position_lt_of_lt h' h hgt
      omega

end PatternLint
