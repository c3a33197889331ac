import Mathlib.Data.List.TakeWhile
import PatternLint.Proofs.Json.Spelling
import PatternLint.Yaml.Token.Scalar

/-!
# JSON scalars as YAML scalars

A double quoted scalar is read in runs with gaps between them, since a line end inside it would be folded;
a JSON string has no line ends, so its characters come out one by one (`quotedScalar_stringText`).  The
words and the numbers of JSON are plain scalars, and a plain scalar also takes the blanks behind it
(`plainScalar_word`).
-/

namespace PatternLint.Yaml

open PatternLint.Text

/-! ### Moving a cursor -/

namespace Cursor

@[simp] theorem skip_zero (c : Cursor) : c.skip 0 = c := rfl

theorem skip_succ (c : Cursor) (n : Nat) : c.skip (n + 1) = c.next.skip n := rfl

theorem skip_one (c : Cursor) : c.skip 1 = c.next := rfl

theorem skip_skip (c : Cursor) (a b : Nat) : (c.skip a).skip b = c.skip (a + b) := by
  induction a generalizing c with
  | zero => rw [skip_zero, Nat.zero_add]
  | succ a ih =>
    rw [skip_succ, ih, Nat.add_right_comm]
    rfl

theorem next_skip (c : Cursor) (n : Nat) : (c.skip n).next = c.skip (n + 1) := by
  rw [← skip_one, skip_skip]

theorem rest_next (c : Cursor) : c.next.rest = c.rest.drop 1 := by
  unfold next
  split
  · next h => simp [h]
  · next h =>
    rw [h]
    split_ifs <;> rfl

@[simp] theorem rest_skip (c : Cursor) (n : Nat) : (c.skip n).rest = c.rest.drop n := by
  induction n generalizing c with
  | zero => rfl
  | succ n ih => rw [skip_succ, ih, rest_next, List.drop_drop, Nat.add_comm]

theorem rest_skip_of_eq {c : Cursor} {s rest : List Char} (h : c.rest = s ++ rest) :
    (c.skip s.length).rest = rest := by
  rw [rest_skip, h, List.drop_left]

theorem peek_of_eq {c : Cursor} {x : Char} {rest : List Char} (h : c.rest = x :: rest) :
    c.peek 0 = some x := by
  simp [peek, h]

/-- Past characters that end no line, the index grows and the line stays. -/
theorem skip_in_line {c : Cursor} {s rest : List Char} (h : c.rest = s ++ rest)
    (hs : ∀ x ∈ s, isBreak x = false) :
    (c.skip s.length).index = c.index + s.length ∧ (c.skip s.length).line = c.line := by
  induction s generalizing c with
  | nil => exact ⟨rfl, rfl⟩
  | cons x s ih =>
    have hx : isBreak x = false := hs x List.mem_cons_self
    have hnext : c.next.index = c.index + 1 ∧ c.next.line = c.line := by
      unfold next
      rw [h, List.cons_append]
      simp only [hx, Bool.false_and, Bool.false_eq_true, if_false]
      split_ifs <;> exact ⟨rfl, rfl⟩
    have hrest : c.next.rest = s ++ rest := by
      rw [rest_next, h]
      rfl
    have hmore := ih hrest fun y hy => hs y (List.mem_cons_of_mem _ hy)
    rw [List.length_cons, skip_succ, hmore.1, hmore.2, hnext.1, hnext.2]
    exact ⟨by omega, rfl⟩

theorem skipWhile_eq (c : Cursor) (p : Char → Bool) :
    c.skipWhile p = c.skip (c.rest.takeWhile p).length := rfl

theorem lineBreak?_newline {c : Cursor} {rest : List Char} (h : c.rest = '\n' :: rest) :
    c.lineBreak? = some ('\n', c.next) := by
  unfold lineBreak?
  rw [h]
  rfl

theorem lineBreak?_eq_none {c : Cursor} (h : ∀ x ∈ c.rest.head?, isBreak x = false) :
    c.lineBreak? = none := by
  unfold lineBreak?
  cases hrest : c.rest with
  | nil => rfl
  | cons x rest =>
    have hx : isBreak x = false := h x (by rw [hrest]; rfl)
    have hreturn : x ≠ '\r' := by
      rintro rfl
      exact absurd hx (by decide)
    have hbreak := hx
    simp only [isBreak, Bool.or_eq_false_iff] at hx
    obtain ⟨⟨⟨⟨hx1, hx2⟩, hx3⟩, -⟩, -⟩ := hx
    split
    · rename_i heq
      exact absurd (List.cons.inj heq).1 hreturn
    · rename_i heq
      obtain ⟨rfl, -⟩ := List.cons.inj heq
      simp [hx1, hx2, hx3, hbreak]
    · rfl

end Cursor

/-! ### Strings -/

/-- A string of which no character, as it is written, ends a line. -/
def OneLine (s : List Json.Piece) : Prop := ∀ p ∈ s, ∀ x ∈ p.text, isBreak x = false

theorem OneLine.isBreak {s : List Json.Piece} (h : OneLine s) :
    ∀ x ∈ Json.stringText s, isBreak x = false := by
  intro x hx
  rw [Json.stringText, List.mem_cons, List.mem_append, List.mem_singleton] at hx
  rcases hx with rfl | hx | rfl
  · decide
  · obtain ⟨p, hp, hxp⟩ := List.mem_flatMap.mp hx
    exact h p hp x hxp
  · decide

/-- A blank that is written as itself. -/
def isBlankPiece : Json.Piece → Bool
  | .raw c _ _ _ => c == ' '
  | _ => false

theorem hexValue?_eq (c : Char) : hexValue? c = Json.hexValue? c := by
  have hle : ∀ a b : Char, a ≤ b ↔ a.toNat ≤ b.toNat := fun a b => UInt32.le_iff_toNat_le
  simp only [hexValue?, Json.hexValue?, hle, Bool.and_eq_true, decide_eq_true_eq]
  have hends : '0'.toNat = 48 ∧ '9'.toNat = 57 ∧ 'a'.toNat = 97 ∧ 'f'.toNat = 102 ∧
      'A'.toNat = 65 ∧ 'F'.toNat = 70 := by decide
  obtain ⟨h0, h9, ha, hf, hA, hF⟩ := hends
  rw [h0, h9, ha, hf, hA, hF]
  -- the two tables list the small and the capital letters in different orders
  by_cases hsmall : 97 ≤ c.toNat ∧ c.toNat ≤ 102
  · have hcapital : ¬ (65 ≤ c.toNat ∧ c.toNat ≤ 70) := by omega
    simp only [hsmall, hcapital, if_false]
  · simp only [hsmall, if_false]

theorem hexCode_unit {c : Cursor} {digits rest : List Char} {n : Nat} (h : c.rest = digits ++ rest)
    (hread : Json.readUnit digits = some (n, [])) : hexCode 4 c = .ok (n, c.skip 4) := by
  obtain ⟨a, b, d, e, w, x, y, z, rfl, ha, hb, hd, he, rfl⟩ := Json.readUnit_eq_some hread
  have htake : c.rest.take 4 = [a, b, d, e] := by
    rw [h]
    rfl
  have hvalues : [a, b, d, e].mapM hexValue? = some [w, x, y, z] := by
    simp [hexValue?_eq, ha, hb, hd, he]
  unfold hexCode
  rw [htake, hvalues]
  simp
  ring

theorem shortEscape?_eq {letter c : Char} (h : (letter, c) ∈ Json.shortEscapes) :
    shortEscape? letter = some c := by
  have hall : ∀ p ∈ Json.shortEscapes, shortEscape? p.1 = some p.2 := by decide
  exact hall _ h

theorem escaped_short {c : Cursor} {letter x : Char} {rest : List Char} (h : c.rest = letter :: rest)
    (hlisted : (letter, x) ∈ Json.shortEscapes) : escaped c = .ok ([x], c.next) := by
  unfold escaped
  rw [Cursor.peek_of_eq h]
  simp only [shortEscape?_eq hlisted]

theorem escaped_numbered {c : Cursor} {digits rest : List Char} {n : Nat}
    (h : c.rest = 'u' :: (digits ++ rest)) (hread : Json.readUnit digits = some (n, []))
    (hwhole : n.isValidChar) : escaped c = .ok ([Char.ofNat n], c.skip 5) := by
  have hrest : c.next.rest = digits ++ rest := by
    rw [Cursor.rest_next, h]
    rfl
  have hletter : shortEscape? 'u' = none ∧ escapeDigits? 'u' = some 4 := by decide
  have hbound : n < 0x110000 := by
    rcases hwhole with h | ⟨-, h⟩
    · omega
    · exact h
  have hchar : charOfCode n = .ok (Char.ofNat n) := by
    rw [charOfCode, if_pos hbound, if_pos hwhole]
  unfold escaped
  rw [Cursor.peek_of_eq h]
  simp only [hletter.1, hletter.2, hexCode_unit hrest hread]
  change ((charOfCode n).bind fun x => Except.ok ([x], c.next.skip 4)) = _
  rw [hchar]
  rfl

theorem isSpace_of_le {x : Char} (h : 32 ≤ x.toNat) (hx : x ≠ ' ') : isSpace x = false := by
  have htab : x ≠ '\t' := by
    rintro rfl
    exact absurd h (by decide)
  simp [isSpace, hx, htab]

/-- A run takes what an escape stands for. -/
theorem quotedRun_escape {fuel : Nat} {c stop : Cursor} {x : Char} {tail s : List Char} {n : Nat}
    (hrest : c.rest = '\\' :: tail) (hescaped : escaped c.next = .ok ([x], c.next.skip n))
    (hmore : quotedRun true fuel (c.skip (n + 1)) = .ok (s, stop)) :
    quotedRun true (fuel + 1) c = .ok (x :: s, stop) := by
  have hkind : isSpace '\\' = false ∧ isBreak '\\' = false := by decide
  rw [quotedRun, Cursor.peek_of_eq hrest]
  simp only [hkind.1, hkind.2, hescaped, Bool.or_self, Bool.false_eq_true, if_false, Bool.true_and,
    beq_self_eq_true, if_true]
  change (quotedRun true fuel (c.next.skip n)).bind _ = _
  rw [← Cursor.skip_succ, hmore]
  rfl

/-- A run takes a piece that is no blank. -/
theorem quotedRun_piece {p : Json.Piece} {fuel : Nat} {c : Cursor} {tail : List Char}
    (hrest : c.rest = p.text ++ tail) (hp : isBlankPiece p = false)
    (hline : ∀ x ∈ p.text, isBreak x = false) {s : List Char} {stop : Cursor}
    (hmore : quotedRun true fuel (c.skip p.text.length) = .ok (s, stop)) :
    quotedRun true (fuel + 1) c = .ok (p.char :: s, stop) := by
  cases p with
  | raw x control quote escape =>
    have hx : x ≠ ' ' := by simpa [isBlankPiece] using hp
    have hspace := isSpace_of_le control hx
    have hbreak : isBreak x = false := hline x (by simp [Json.Piece.text])
    rw [quotedRun, Cursor.peek_of_eq hrest]
    have hquote : (x == doubleQuote) = false := by simpa using quote
    have hescape : (x == '\\') = false := by simpa using escape
    simp only [hspace, hbreak, hquote, hescape, Bool.or_self, Bool.and_false, Bool.not_true,
      Bool.false_and, Bool.false_eq_true, if_false, if_true]
    rw [← Cursor.skip_one]
    change (quotedRun true fuel (c.skip 1)).bind _ = _
    rw [show (1 : Nat) = (Json.Piece.raw x control quote escape).text.length from rfl, hmore]
    rfl
  | short letter x listed =>
    have hnext : c.next.rest = letter :: tail := by
      rw [Cursor.rest_next, hrest]
      rfl
    exact quotedRun_escape (n := 1) hrest (escaped_short hnext listed) hmore
  | numbered digits code read whole =>
    have hnext : c.next.rest = 'u' :: (digits ++ tail) := by
      rw [Cursor.rest_next, hrest]
      rfl
    have hlength : (Json.Piece.numbered digits code read whole).text.length = 5 + 1 := by
      obtain ⟨a, b, d, e, -, -, -, -, rfl, -⟩ := Json.readUnit_eq_some read
      rfl
    rw [hlength] at hmore
    exact quotedRun_escape hrest (escaped_numbered hnext read whole) hmore

/-- Pieces without blanks are one run. -/
theorem quotedRun_pieces : ∀ {s : List Json.Piece} {fuel : Nat} {c : Cursor} {tail : List Char},
    c.rest = s.flatMap Json.Piece.text ++ tail → (∀ p ∈ s, isBlankPiece p = false) → OneLine s →
    (tail.head? = some doubleQuote ∨ tail.head? = some ' ') → s.length < fuel →
    quotedRun true fuel c = .ok (s.map Json.Piece.char, c.skip (s.flatMap Json.Piece.text).length)
  | [], fuel + 1, c, tail, hrest, _, _, hstop, _ => by
    have hpeek : c.peek 0 = tail.head? := by
      rw [Cursor.peek, hrest, List.flatMap_nil, List.nil_append, List.head?_eq_getElem?]
    have hquote : isSpace doubleQuote = false ∧ isBreak doubleQuote = false ∧
        (doubleQuote == '\\') = false := by decide
    have hblank : isSpace ' ' = true := by decide
    rw [quotedRun, hpeek]
    rcases hstop with hstop | hstop
    · simp [hstop, hquote.1, hquote.2.1, hquote.2.2]
    · simp [hstop, hblank]
  | p :: s, fuel + 1, c, tail, hrest, hp, hline, hstop, hfuel => by
    rw [List.flatMap_cons, List.append_assoc] at hrest
    have hskip := Cursor.rest_skip_of_eq hrest
    have hmore := quotedRun_pieces hskip (fun q hq => hp q (List.mem_cons_of_mem _ hq))
      (fun q hq => hline q (List.mem_cons_of_mem _ hq)) hstop (Nat.lt_of_succ_lt_succ hfuel)
    rw [Cursor.skip_skip, ← List.length_append] at hmore
    exact quotedRun_piece hrest (hp p List.mem_cons_self) (hline p List.mem_cons_self) hmore

theorem text_of_isBlankPiece {p : Json.Piece} (h : isBlankPiece p) : p.text = [' '] ∧ p.char = ' ' := by
  cases p with
  | raw c control quote escape =>
    have hc : c = ' ' := by simpa [isBlankPiece] using h
    exact ⟨by rw [Json.Piece.text, hc], hc⟩
  | short letter x listed => simp [isBlankPiece] at h
  | numbered digits code read whole => simp [isBlankPiece] at h

theorem text_of_blanks {s : List Json.Piece} (h : ∀ p ∈ s, isBlankPiece p) :
    s.flatMap Json.Piece.text = s.map Json.Piece.char ∧ ∀ x ∈ s.map Json.Piece.char, isSpace x := by
  induction s with
  | nil => simp
  | cons p s ih =>
    obtain ⟨htext, hchar⟩ := text_of_isBlankPiece (h p List.mem_cons_self)
    obtain ⟨hmore, hspace⟩ := ih fun q hq => h q (List.mem_cons_of_mem _ hq)
    refine ⟨by rw [List.flatMap_cons, htext, hmore, List.map_cons, hchar]; rfl, ?_⟩
    intro x hx
    rw [List.map_cons, List.mem_cons] at hx
    rcases hx with rfl | hx
    · rw [hchar]
      decide
    · exact hspace x hx

/-- Blanks inside a line are kept. -/
theorem quotedGap_blanks {c : Cursor} {blanks tail : List Char} {x : Char}
    (hrest : c.rest = blanks ++ x :: tail) (hblanks : ∀ y ∈ blanks, isSpace y)
    (hspace : isSpace x = false) (hbreak : isBreak x = false) :
    quotedGap c = .ok (blanks, c.skip blanks.length) := by
  have hrun : c.rest.takeWhile isSpace = blanks := by
    rw [hrest, List.takeWhile_append_of_pos hblanks, List.takeWhile_cons_of_neg (by simp [hspace]),
      List.append_nil]
  have hbehind := Cursor.rest_skip_of_eq hrest
  have hline : (c.skip blanks.length).lineBreak? = none :=
    Cursor.lineBreak?_eq_none (by rw [hbehind]; simpa using hbreak)
  unfold quotedGap Cursor.span
  simp only [hrun, Cursor.peek_of_eq hbehind, hline]

/-- What follows blanks in a string: the closing quote or a piece, never a blank. -/
theorem head_of_not_blank {s : List Json.Piece} (hs : ∀ p ∈ s.head?, isBlankPiece p = false)
    (hline : OneLine s) (rest : List Char) :
    ∃ x tail, s.flatMap Json.Piece.text ++ doubleQuote :: rest = x :: tail ∧ isSpace x = false ∧
      isBreak x = false := by
  cases s with
  | nil => exact ⟨doubleQuote, rest, rfl, by decide, by decide⟩
  | cons p s =>
    have hp : isBlankPiece p = false := hs p rfl
    have hbreak := hline p List.mem_cons_self
    rw [List.flatMap_cons, List.append_assoc]
    cases p with
    | raw c control quote escape =>
      have hc : c ≠ ' ' := by simpa [isBlankPiece] using hp
      exact ⟨c, _, rfl, isSpace_of_le control hc, hbreak c (by simp [Json.Piece.text])⟩
    | short letter x listed => exact ⟨'\\', _, rfl, by decide, by decide⟩
    | numbered digits code read whole => exact ⟨'\\', _, rfl, by decide, by decide⟩

theorem length_le_text (s : List Json.Piece) : s.length ≤ (s.flatMap Json.Piece.text).length := by
  induction s with
  | nil => simp
  | cons p s ih =>
    have hp : 1 ≤ p.text.length := by cases p <;> simp [Json.Piece.text]
    rw [List.flatMap_cons, List.length_append, List.length_cons]
    omega

/-- A string without blanks is one run; any other one is a run, a gap, and a string that starts with no
blank. -/
theorem pieces_split (s : List Json.Piece) :
    (∀ p ∈ s, isBlankPiece p = false) ∨
      ∃ run gap more, s = run ++ (gap ++ more) ∧ (∀ p ∈ run, isBlankPiece p = false) ∧ gap ≠ [] ∧
        (∀ p ∈ gap, isBlankPiece p) ∧ ∀ p ∈ more.head?, isBlankPiece p = false := by
  have hs := List.takeWhile_append_dropWhile (p := fun p => !isBlankPiece p) (l := s)
  have hrun : ∀ p ∈ s.takeWhile (fun p => !isBlankPiece p), isBlankPiece p = false := fun p hp => by
    simpa using List.mem_takeWhile_imp hp
  cases hafter : s.dropWhile (fun p => !isBlankPiece p) with
  | nil =>
    left
    rw [hafter, List.append_nil] at hs
    rwa [hs] at hrun
  | cons p after =>
    right
    have hp : isBlankPiece p = true := by
      have hhead := List.head?_dropWhile_not (fun p => !isBlankPiece p) s
      rw [hafter] at hhead
      simpa using hhead
    refine ⟨_, (p :: after).takeWhile isBlankPiece, (p :: after).dropWhile isBlankPiece, ?_, hrun, ?_,
      fun q hq => List.mem_takeWhile_imp hq, fun q hq => ?_⟩
    · rw [List.takeWhile_append_dropWhile, ← hafter, hs]
    · rw [List.takeWhile_cons_of_pos hp]
      simp
    · have hhead := List.head?_dropWhile_not isBlankPiece (p :: after)
      rw [hq] at hhead
      simpa using hhead

/-- The runs and the gaps of a string, put together. -/
theorem quotedFrom_pieces {s : List Json.Piece} : ∀ {fuel : Nat} {c : Cursor} {rest : List Char},
    OneLine s → c.rest = s.flatMap Json.Piece.text ++ doubleQuote :: rest → s.length < fuel →
    quotedFrom true fuel c =
      .ok (s.map Json.Piece.char, c.skip ((s.flatMap Json.Piece.text).length + 1)) := by
  induction hn : s.length using Nat.strong_induction_on generalizing s with
  | _ n ih =>
    intro fuel c rest hline hrest hfuel
    obtain ⟨fuel, rfl⟩ : ∃ k, fuel = k + 1 := Nat.exists_eq_add_one.mpr (by omega)
    rcases pieces_split s with hbare | ⟨run, gap, more, rfl, hrun, hgapNe, hgap, hmore⟩
    · have hroom : s.length < c.rest.length + 1 := by
        have := length_le_text s
        rw [hrest, List.length_append]
        omega
      have hstop := Cursor.rest_skip_of_eq hrest
      rw [quotedFrom, quotedRun_pieces hrest hbare hline (Or.inl rfl) hroom]
      change (if (c.skip _).peek 0 == some doubleQuote then _ else _) = _
      rw [Cursor.peek_of_eq hstop, if_pos (by simp), Cursor.next_skip]
    · have hrunLine : OneLine run := fun p hp => hline p (List.mem_append_left _ hp)
      have hmoreLine : OneLine more := fun p hp =>
        hline p (List.mem_append_right _ (List.mem_append_right _ hp))
      obtain ⟨hgapText, hgapSpace⟩ := text_of_blanks hgap
      obtain ⟨x, tail, hx, hxSpace, hxBreak⟩ := head_of_not_blank hmore hmoreLine rest
      obtain ⟨q, gap', rfl⟩ := List.exists_cons_of_ne_nil hgapNe
      have hq : q.char = ' ' := (text_of_isBlankPiece (hgap q List.mem_cons_self)).2
      have hrunRest : c.rest = run.flatMap Json.Piece.text ++
          ((q :: gap').map Json.Piece.char ++ x :: tail) := by
        rw [hrest, List.flatMap_append, List.flatMap_append, hgapText, List.append_assoc,
          List.append_assoc, hx]
      have hstop : ((q :: gap').map Json.Piece.char ++ x :: tail).head? = some ' ' := by
        rw [List.map_cons, hq]
        rfl
      have hroom : run.length < c.rest.length + 1 := by
        have := length_le_text run
        rw [hrunRest, List.length_append]
        omega
      have hgapRest := Cursor.rest_skip_of_eq hrunRest
      have hmoreRest := Cursor.rest_skip_of_eq hgapRest
      rw [← hx] at hmoreRest
      simp only [List.length_append, List.length_cons] at hn
      have hrec := ih more.length (by omega) rfl hmoreLine hmoreRest (by omega : more.length < fuel)
      have hblank : (c.skip (run.flatMap Json.Piece.text).length).peek 0 = some ' ' := by
        rw [Cursor.peek, hgapRest, ← List.head?_eq_getElem?, hstop]
      rw [quotedFrom, quotedRun_pieces hrunRest hrun hrunLine (Or.inr hstop) hroom]
      change (if (c.skip _).peek 0 == some doubleQuote then _ else (quotedGap _).bind _) = _
      rw [hblank, if_neg (by decide), quotedGap_blanks hgapRest hgapSpace hxSpace hxBreak]
      change (quotedFrom true fuel _).bind _ = _
      rw [hrec]
      change Except.ok (_, _) = _
      rw [Cursor.skip_skip, Cursor.skip_skip]
      simp only [List.map_append, List.flatMap_append, hgapText, List.length_append,
        List.append_assoc, Nat.add_assoc]

theorem quotedScalar_stringText {s : List Json.Piece} {c : Cursor} {rest : List Char}
    (hline : OneLine s) (h : c.rest = Json.stringText s ++ rest) :
    quotedScalar true c = .ok (s.map Json.Piece.char, c.skip (Json.stringText s).length) := by
  have hnext : c.next.rest = s.flatMap Json.Piece.text ++ doubleQuote :: rest := by
    rw [Cursor.rest_next, h, Json.stringText]
    simp
  have hroom : s.length < c.rest.length + 1 := by
    have := length_le_text s
    rw [h, Json.stringText, List.length_append, List.length_cons, List.length_append]
    omega
  rw [quotedScalar, quotedFrom_pieces hline hnext hroom, ← Cursor.skip_succ]
  simp [Json.stringText]

/-! ### Words and numbers -/

/-- The characters of words and numbers. -/
def isWordChar (c : Char) : Bool := c.isAlphanum || c == '-' || c == '+' || c == '.'

theorem toNat_of_isWordChar {c : Char} (h : isWordChar c) :
    c.toNat = 43 ∨ 45 ≤ c.toNat ∧ c.toNat ≤ 46 ∨ 48 ≤ c.toNat ∧ c.toNat ≤ 57 ∨
      65 ≤ c.toNat ∧ c.toNat ≤ 90 ∨ 97 ≤ c.toNat ∧ c.toNat ≤ 122 := by
  delta isWordChar Char.isAlphanum Char.isAlpha Char.isUpper Char.isLower Char.isDigit at h
  simp only [Bool.or_eq_true, Bool.and_eq_true, decide_eq_true_eq, beq_iff_eq, ge_iff_le,
    UInt32.le_iff_toNat_le] at h
  rcases h with (((((h | h) | h) | rfl) | rfl) | rfl)
  · exact Or.inr (Or.inr (Or.inr (Or.inl h)))
  · exact Or.inr (Or.inr (Or.inr (Or.inr h)))
  · exact Or.inr (Or.inr (Or.inl h))
  · decide
  · decide
  · decide

theorem isWordChar_ne {c x : Char} (h : isWordChar c) (hx : isWordChar x = false) : c ≠ x := by
  rintro rfl
  rw [h] at hx
  cases hx

/-- A blank between tokens, once the line ends are written alike. -/
def isGap (c : Char) : Bool := c == ' ' || c == '\n'

/-- What may stand behind the blanks after a word: nothing, a tab, or what ends an item of a flow
collection. -/
def Closing (flow : Bool) (tail : List Char) : Prop :=
  ∀ x ∈ tail.head?, x = '\t' ∨ flow = true ∧ x ∈ [',', ']', '\x7d']

theorem Closing.mem {flow : Bool} {tail : List Char} (h : Closing flow tail) :
    ∀ x ∈ tail.head?, x ∈ ['\t', ',', ']', '\x7d'] := by
  intro x hx
  rcases h x hx with rfl | ⟨-, hmem⟩
  · decide
  · exact List.mem_cons_of_mem _ hmem

theorem isBreak_of_isWordChar {c : Char} (h : isWordChar c) : isBreak c = false := by
  have hrange := toNat_of_isWordChar h
  have hn := isWordChar_ne (x := '\n') h (by decide)
  have hr := isWordChar_ne (x := '\r') h (by decide)
  simp only [isBreak, Bool.or_eq_false_iff, beq_eq_false_iff_ne]
  exact ⟨⟨⟨⟨hn, hr⟩, by omega⟩, by omega⟩, by omega⟩

theorem isSpace_of_isWordChar {c : Char} (h : isWordChar c) : isSpace c = false := by
  have hb := isWordChar_ne (x := ' ') h (by decide)
  have ht := isWordChar_ne (x := '\t') h (by decide)
  simp [isSpace, hb, ht]

theorem plainRun_word (flow : Bool) {w : List Char} (hw : ∀ c ∈ w, isWordChar c) (rest : List Char) :
    plainRun flow (w ++ rest) = w ++ plainRun flow rest := by
  induction w with
  | nil => rfl
  | cons c w ih =>
    have hc := hw c List.mem_cons_self
    have hcolon : (c == ':') = false := by
      simpa using isWordChar_ne (x := ':') hc (by decide)
    have hflow : ",?[]\x7b\x7d".toList.contains c = false := by
      have hnone : ∀ x ∈ ",?[]\x7b\x7d".toList, isWordChar x = false := by decide
      simpa using fun hmem => isWordChar_ne hc (hnone c hmem) rfl
    rw [List.cons_append, plainRun, isSpace_of_isWordChar hc, isBreak_of_isWordChar hc, hcolon, hflow,
      ih fun x hx => hw x (List.mem_cons_of_mem _ hx)]
    simp

theorem plainRun_closing {flow : Bool} {tail : List Char} (h : Closing flow tail) :
    plainRun flow tail = [] := by
  cases tail with
  | nil => rfl
  | cons x tail =>
    rcases h x rfl with rfl | ⟨hflow, hx⟩
    · have htab : isSpace '\t' = true := by decide
      simp [plainRun, htab]
    · have hstop : ",?[]\x7b\x7d".toList.contains x = true := by
        have hall : ∀ y ∈ [',', ']', '\x7d'], ",?[]\x7b\x7d".toList.contains y = true := by decide
        exact hall x hx
      rw [plainRun, hflow, hstop]
      simp

theorem plainRun_gap {flow : Bool} {gaps tail : List Char} (hgaps : ∀ x ∈ gaps, isGap x)
    (h : Closing flow tail) : plainRun flow (gaps ++ tail) = [] := by
  cases gaps with
  | nil => exact plainRun_closing h
  | cons x gaps =>
    have hx : isSpace x || isBreak x := by
      have := hgaps x List.mem_cons_self
      simp only [isGap, Bool.or_eq_true, beq_iff_eq] at this
      rcases this with rfl | rfl <;> decide
    simp only [Bool.or_eq_true] at hx
    simp [plainRun, hx]

/-- Behind the spaces of a gap there is a line end, or the gap is over. -/
theorem gap_cases {gaps : List Char} (h : ∀ x ∈ gaps, isGap x) :
    ∃ spaces, (∀ x ∈ spaces, (x == ' ') = true) ∧
      (gaps = spaces ∨ ∃ more, gaps = spaces ++ '\n' :: more ∧ ∀ x ∈ more, isGap x) := by
  refine ⟨gaps.takeWhile (· == ' '), fun x hx => ?_, ?_⟩
  · exact List.mem_takeWhile_imp (p := (· == ' ')) hx
  have hsplit := List.takeWhile_append_dropWhile (p := (· == ' ')) (l := gaps)
  cases hdrop : gaps.dropWhile (· == ' ') with
  | nil =>
    rw [hdrop, List.append_nil] at hsplit
    exact Or.inl hsplit.symm
  | cons x more =>
    rw [hdrop] at hsplit
    have hgap : ∀ y ∈ x :: more, isGap y := fun y hy =>
      h y (hsplit ▸ List.mem_append_right _ hy)
    have hx : x = '\n' := by
      have hhead := List.head?_dropWhile_not (· == ' ') gaps
      rw [hdrop] at hhead
      have hgapx := hgap x List.mem_cons_self
      simp only [List.head?_cons, beq_eq_false_iff_ne] at hhead
      simpa [isGap, hhead] using hgapx
    exact Or.inr ⟨more, by rw [← hx, hsplit], fun y hy => hgap y (List.mem_cons_of_mem _ hy)⟩

/-- Nothing that follows a gap is taken for a part of it. -/
def Outside (tail : List Char) : Prop := ∀ x ∈ tail.head?, isGap x = false ∧ isBreak x = false

theorem skipWhile_spaces {c : Cursor} {spaces tail : List Char} (hrest : c.rest = spaces ++ tail)
    (hspaces : ∀ x ∈ spaces, (x == ' ') = true) (htail : ∀ x ∈ tail.head?, x ≠ ' ') :
    c.rest.takeWhile (· == ' ') = spaces := by
  rw [hrest, List.takeWhile_append_of_pos hspaces]
  cases tail with
  | nil => simp
  | cons x tail => rw [List.takeWhile_cons_of_neg (by simpa using htail x rfl), List.append_nil]

theorem Outside.ne_blank {tail : List Char} (h : Outside tail) : ∀ x ∈ tail.head?, x ≠ ' ' := by
  rintro x hx rfl
  exact absurd (h ' ' hx).1 (by decide)

theorem Closing.outside {flow : Bool} {tail : List Char} (h : Closing flow tail) : Outside tail := by
  intro x hx
  have hall : ∀ y ∈ ['\t', ',', ']', '\x7d'], isGap y = false ∧ isBreak y = false := by decide
  exact hall x (h.mem x hx)

/-- Where no dash and no point comes next, no document starts or ends. -/
theorem atSeparator_eq_false {c : Cursor} (h : ∀ x ∈ c.rest.head?, x ≠ '-' ∧ x ≠ '.') :
    c.atSeparator = false := by
  have hmark : ∀ x s, c.rest.take 3 = x :: s → x ≠ '-' ∧ x ≠ '.' := by
    intro x s hx
    refine h x ?_
    cases hrest : c.rest with
    | nil => simp [hrest] at hx
    | cons y rest =>
      rw [hrest, List.take_succ_cons] at hx
      rw [(List.cons.inj hx).1]
      rfl
  simp only [Cursor.atSeparator, Cursor.atMark, Bool.or_eq_false_iff, Bool.and_eq_false_iff]
  refine ⟨Or.inl ?_, Or.inl ?_⟩
  · rw [beq_eq_false_iff_ne]
    exact fun heq => (hmark _ _ heq).1 rfl
  · rw [beq_eq_false_iff_ne]
    exact fun heq => (hmark _ _ heq).2 rfl

theorem atSeparator_gap {flow : Bool} {c : Cursor} {gaps tail : List Char}
    (hrest : c.rest = gaps ++ tail) (hgaps : ∀ x ∈ gaps, isGap x) (htail : Closing flow tail) :
    c.atSeparator = false := by
  refine atSeparator_eq_false fun x hx => ?_
  rw [hrest] at hx
  cases gaps with
  | nil =>
    have hall : ∀ y ∈ ['\t', ',', ']', '\x7d'], y ≠ '-' ∧ y ≠ '.' := by decide
    exact hall x (htail.mem x hx)
  | cons y gaps =>
    obtain rfl := Option.some.inj hx
    have hgap := hgaps y List.mem_cons_self
    constructor
    · rintro rfl
      exact absurd hgap (by decide)
    · rintro rfl
      exact absurd hgap (by decide)

theorem plainBreaks_gap {flow : Bool} : ∀ {fuel : Nat} {c : Cursor} {gaps tail : List Char},
    c.rest = gaps ++ tail → (∀ x ∈ gaps, isGap x) → Closing flow tail → gaps.length < fuel →
    ∃ breaks c', plainBreaks fuel c = some (breaks, c') ∧ c'.rest = tail
  | 0, _, _, _, _, _, _, hfuel => absurd hfuel (Nat.not_lt_zero _)
  | fuel + 1, c, gaps, tail, hrest, hgaps, htail, hfuel => by
    rw [plainBreaks, atSeparator_gap hrest hgaps htail, Cursor.skipWhile_eq]
    simp only [Bool.false_eq_true, if_false]
    obtain ⟨spaces, hspaces, rfl | ⟨more, rfl, hmore⟩⟩ := gap_cases hgaps
    · rw [skipWhile_spaces hrest hspaces htail.outside.ne_blank]
      have hbehind := Cursor.rest_skip_of_eq hrest
      have hline : (c.skip gaps.length).lineBreak? = none :=
        Cursor.lineBreak?_eq_none fun x hx => (htail.outside x (hbehind ▸ hx)).2
      rw [hline]
      exact ⟨[], _, rfl, hbehind⟩
    · rw [List.append_assoc] at hrest
      rw [skipWhile_spaces hrest hspaces (by simp)]
      have hbehind := Cursor.rest_skip_of_eq hrest
      rw [List.cons_append] at hbehind
      have hnext : (c.skip spaces.length).next.rest = more ++ tail := by
        rw [Cursor.rest_next, hbehind]
        rfl
      rw [List.length_append, List.length_cons] at hfuel
      obtain ⟨breaks, c', hbreaks, hc'⟩ := plainBreaks_gap hnext hmore htail
        (by omega : more.length < fuel)
      rw [Cursor.lineBreak?_newline hbehind]
      dsimp only
      rw [hbreaks]
      exact ⟨'\n' :: breaks, c', rfl, hc'⟩

/-- A gap behind a word is passed over. -/
theorem plainGap_gap {flow : Bool} {c : Cursor} {gaps tail : List Char} (hrest : c.rest = gaps ++ tail)
    (hgaps : ∀ x ∈ gaps, isGap x) (htail : Closing flow tail) : (plainGap c).cursor.rest = tail := by
  unfold plainGap Cursor.span
  dsimp only
  obtain ⟨spaces, hspaces, rfl | ⟨more, rfl, hmore⟩⟩ := gap_cases hgaps
  · rw [skipWhile_spaces hrest hspaces htail.outside.ne_blank]
    have hbehind := Cursor.rest_skip_of_eq hrest
    have hline : (c.skip gaps.length).lineBreak? = none :=
      Cursor.lineBreak?_eq_none fun x hx => (htail.outside x (hbehind ▸ hx)).2
    rw [hline]
    exact hbehind
  · rw [List.append_assoc] at hrest
    rw [skipWhile_spaces hrest hspaces (by simp)]
    have hbehind := Cursor.rest_skip_of_eq hrest
    rw [List.cons_append] at hbehind
    have hnext : (c.skip spaces.length).next.rest = more ++ tail := by
      rw [Cursor.rest_next, hbehind]
      rfl
    rw [Cursor.lineBreak?_newline hbehind]
    have hroom : more.length < (c.skip spaces.length).next.rest.length + 1 := by
      rw [hnext, List.length_append]
      omega
    obtain ⟨breaks, c', hbreaks, hc'⟩ := plainBreaks_gap hnext hmore htail hroom
    dsimp only
    rw [hbreaks]
    exact hc'

/-- A word is a plain scalar, and the blanks behind it are passed over. -/
theorem plainScalar_word {flow : Bool} {c : Cursor} {w gaps tail : List Char}
    (hrest : c.rest = w ++ (gaps ++ tail)) (hne : w ≠ []) (hw : ∀ x ∈ w, isWordChar x)
    (hgaps : ∀ x ∈ gaps, isGap x) (htail : Closing flow tail) :
    (plainScalar flow 0 c).text = w ∧ (plainScalar flow 0 c).cursor.rest = tail := by
  have hrun : plainRun flow c.rest = w := by
    rw [hrest, plainRun_word flow hw, plainRun_gap hgaps htail, List.append_nil]
  have hmark : (c.peek 0 == some '#') = false := by
    obtain ⟨x, w', rfl⟩ := List.exists_cons_of_ne_nil hne
    have hx := isWordChar_ne (x := '#') (hw x List.mem_cons_self) (by decide)
    rw [Cursor.peek_of_eq hrest]
    simpa using hx
  have hbehind := Cursor.rest_skip_of_eq hrest
  have hgap := plainGap_gap hbehind hgaps htail
  have hempty : w.isEmpty = false := by simpa using hne
  -- behind the gap no further run starts
  have hdone : ∀ fuel, (plainFrom flow 0 fuel (plainGap (c.skip w.length))).text = [] ∧
      (plainFrom flow 0 fuel (plainGap (c.skip w.length))).cursor.rest = tail := by
    intro fuel
    cases fuel with
    | zero => exact ⟨rfl, hgap⟩
    | succ fuel =>
      have hstop : plainFrom flow 0 (fuel + 1) (plainGap (c.skip w.length)) =
          ⟨[], (plainGap (c.skip w.length)).cursor, (plainGap (c.skip w.length)).newLine⟩ := by
        rw [plainFrom]
        simp only [hgap, plainRun_closing htail, List.isEmpty_nil, Bool.or_true, if_true]
      rw [hstop]
      exact ⟨rfl, hgap⟩
  unfold plainScalar
  rw [plainFrom]
  simp only [hrun, hmark, hempty, Bool.or_self, Bool.false_eq_true, if_false]
  split_ifs
  · exact ⟨rfl, hgap⟩
  · obtain ⟨htext, hcursor⟩ := hdone c.rest.length
    refine ⟨?_, hcursor⟩
    rw [htext, List.append_nil]
    rfl

end PatternLint.Yaml
