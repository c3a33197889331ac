import PatternLint.Proofs.Text.LetterCase
import PatternLint.Proofs.Text.Pieces
import PatternLint.Proofs.Yaml.Portable
import PatternLint.Yaml.Shape

/-!
# The values of JSON words and numbers

A plain scalar is recognised by its form.  A whole number without leading zeros is an integer to the base
ten (`integer_text`); a number with a fraction is a float, provided that its exponent has a sign
(`isFloat_text`).  So each word and each portable number denotes in YAML what it denotes in JSON
(`scalarValue_number`).
-/

namespace PatternLint.Yaml

open PatternLint.Text

/-! ### The parts of a number -/

def fractionText (n : Json.Number) : List Char :=
  match n.fraction with
  | none => []
  | some d => '.' :: d.chars

def exponentText (n : Json.Number) : List Char :=
  match n.exponent with
  | none => []
  | some e => e.text

/-- A number without its sign. -/
def unsignedText (n : Json.Number) : List Char :=
  Nat.toDigits 10 n.whole ++ (fractionText n ++ exponentText n)

theorem text_eq (n : Json.Number) :
    n.text = (if n.negative then ['-'] else []) ++ unsignedText n := by
  unfold Json.Number.text unsignedText fractionText exponentText
  exact (List.append_assoc _ _ _).trans (List.append_assoc _ _ _)

theorem isDigit_of_mem_toDigits {k : Nat} {c : Char} (h : c ∈ Nat.toDigits 10 k) : c.isDigit :=
  Nat.isDigit_of_mem_toDigits (by decide) (by decide) h

theorem toNat_of_isDigit {c : Char} (h : c.isDigit) : 48 ≤ c.toNat ∧ c.toNat ≤ 57 := by
  simp only [Char.isDigit, Bool.and_eq_true, decide_eq_true_eq, ge_iff_le] at h
  exact ⟨UInt32.le_iff_toNat_le.mp h.1, UInt32.le_iff_toNat_le.mp h.2⟩

theorem isDigit_eq {c : Char} (h : c.isDigit) : isDigit c := by
  have hrange := toNat_of_isDigit h
  simp only [isDigit, isAsciiDigit, Bool.and_eq_true, decide_eq_true_eq]
  exact hrange

theorem isAnyDigit_eq {c : Char} (h : c.isDigit) : isAnyDigit c := by
  have hrange := toNat_of_isDigit h
  have hascii : c.toNat < 128 := by omega
  rw [isAnyDigit, isDecimal, if_pos hascii]
  exact isDigit_eq h

/-- The digits come first. -/
theorem unsignedText_eq_cons (n : Json.Number) :
    ∃ c s, unsignedText n = c :: s ∧ c.isDigit := by
  obtain ⟨c, s, hc⟩ := List.exists_cons_of_ne_nil (Nat.toDigits_ne_nil (n := n.whole) (b := 10))
  have hdigit : c.isDigit := isDigit_of_mem_toDigits (hc ▸ List.mem_cons_self)
  exact ⟨c, s ++ (fractionText n ++ exponentText n), by rw [unsignedText, hc, List.cons_append], hdigit⟩

theorem dropSign_of_isDigit {c : Char} (h : c.isDigit) (s : List Char) : dropSign (c :: s) = c :: s := by
  unfold dropSign
  split
  · next heq =>
    obtain ⟨rfl, -⟩ := List.cons.inj heq
    exact absurd h (by decide)
  · next heq =>
    obtain ⟨rfl, -⟩ := List.cons.inj heq
    exact absurd h (by decide)
  · rfl

theorem dropSign_unsignedText (n : Json.Number) : dropSign (unsignedText n) = unsignedText n := by
  obtain ⟨c, s, hn, hc⟩ := unsignedText_eq_cons n
  rw [hn, dropSign_of_isDigit hc]

theorem dropSign_text (n : Json.Number) : dropSign n.text = unsignedText n := by
  rw [text_eq]
  cases n.negative with
  | false => exact dropSign_unsignedText n
  | true => rfl

theorem mem_text_of_mem_unsigned {n : Json.Number} {c : Char} (h : c ∈ unsignedText n) : c ∈ n.text := by
  rw [text_eq]
  exact List.mem_append_right _ h

theorem notMem_numberText {n : Json.Number} {c : Char} (h : isWordChar c = false) : c ∉ n.text :=
  fun hmem => isWordChar_ne (isWordChar_of_mem_numberText hmem) h rfl

/-- What a number starts with. -/
theorem head_text (n : Json.Number) : ∀ c ∈ n.text.head?, c.isDigit ∨ c = '-' := by
  intro c hc
  obtain ⟨x, s, hn, hx⟩ := Json.numberText_eq n
  rw [hn] at hc
  obtain rfl := Option.some.inj hc
  rcases hx with hx | ⟨hx, -⟩
  · exact Or.inl hx
  · exact Or.inr hx

/-! ### The form of a number -/

theorem withoutEnd_text (n : Json.Number) : Tag.withoutEnd n.text = n.text := by
  have hlast : n.text.getLast? ≠ some '\n' := fun heq =>
    notMem_numberText (n := n) (by decide) (List.mem_of_getLast? heq)
  rw [Tag.withoutEnd]
  simp [hlast]

/-- Nothing in a list of words that start otherwise is a number. -/
theorem contains_text_eq_false {words : List (List Char)} (n : Json.Number)
    (h : ∀ w ∈ words, ∀ c ∈ w.take 1, c.isDigit = false ∧ c ≠ '-') :
    words.contains n.text = false := by
  rw [← Bool.not_eq_true, List.contains_iff_mem]
  intro hmem
  obtain ⟨c, s, hn, -⟩ := Json.numberText_eq n
  obtain ⟨hdigit, hminus⟩ := h _ hmem c (by simp [hn])
  rcases head_text n c (by simp [hn]) with hc | hc
  · rw [hc] at hdigit
    cases hdigit
  · exact hminus hc

theorem isWord_text_eq_false (n : Json.Number) :
    (Tag.truths.contains (String.ofList n.text) || Tag.falsehoods.contains (String.ofList n.text)) =
      false := by
  have hwords : ∀ words : List String, (words.map String.toList).contains n.text = false →
      words.contains (String.ofList n.text) = false := by
    intro words h
    rw [← Bool.not_eq_true, List.contains_iff_mem] at h ⊢
    exact fun hmem => h (List.mem_map.mpr ⟨_, hmem, String.toList_ofList⟩)
  rw [Bool.or_eq_false_iff]
  exact ⟨hwords _ (contains_text_eq_false n (by decide)), hwords _ (contains_text_eq_false n (by decide))⟩

theorem ofScalar_text (n : Json.Number) (h : isFloat n.text ∨ isInteger n.text) :
    Tag.ofScalar (String.ofList n.text) = if isFloat n.text then .float else .int := by
  obtain ⟨c, s, hn, -⟩ := Json.numberText_eq n
  have hne : (String.ofList n.text).isEmpty = false := by
    rw [hn]
    simp
  unfold Tag.ofScalar
  simp only [hne, String.toList_ofList, withoutEnd_text, isWord_text_eq_false, Bool.false_eq_true,
    if_false]
  by_cases hfloat : isFloat n.text = true
  · rw [if_pos hfloat, if_pos hfloat]
  · have hint : isInteger n.text = true := h.resolve_left hfloat
    rw [if_neg hfloat, if_neg hfloat, if_pos hint]

/-- A run ends where the test first fails. -/
theorem span_append {p : Char → Bool} {s : List Char} (hs : ∀ c ∈ s, p c = true) (rest : List Char)
    (hrest : ∀ c ∈ rest.head?, p c = false) :
    (s ++ rest).takeWhile p = s ∧ (s ++ rest).dropWhile p = rest := by
  rw [List.takeWhile_append_of_pos hs, List.dropWhile_append_of_pos hs]
  cases rest with
  | nil => simp
  | cons c rest => simp [hrest c rfl]

theorem ne_point_of_mem_toDigits {k : Nat} : ∀ c ∈ Nat.toDigits 10 k, (c != '.') = true := by
  intro c hc
  rw [bne_iff_ne]
  rintro rfl
  exact absurd (isDigit_of_mem_toDigits hc) (by decide)

theorem noSpecial_unsignedText (n : Json.Number) : infinities.contains (unsignedText n) = false := by
  obtain ⟨c, s, hn, hc⟩ := unsignedText_eq_cons n
  have hall : ∀ w ∈ infinities, ∀ x ∈ w.take 1, x.isDigit = false := by decide
  rw [← Bool.not_eq_true, List.contains_iff_mem]
  intro hmem
  have hnot := hall _ hmem c (by simp [hn])
  rw [hc] at hnot
  cases hnot

theorem nothing_text (n : Json.Number) : nothings.contains n.text = false :=
  contains_text_eq_false n (by decide)

/-! ### Whole numbers -/

theorem unsignedText_of_isWhole {n : Json.Number} (h : n.isWhole) :
    unsignedText n = Nat.toDigits 10 n.whole := by
  simp only [Json.Number.isWhole, Bool.and_eq_true, Option.isNone_iff_eq_none] at h
  rw [unsignedText, fractionText, exponentText, h.1, h.2]
  simp

theorem isFloat_of_isWhole {n : Json.Number} (h : n.isWhole) : isFloat n.text = false := by
  have hpoint := span_append (ne_point_of_mem_toDigits (k := n.whole)) [] (by simp)
  rw [List.append_nil] at hpoint
  have hspecial := noSpecial_unsignedText n
  unfold isFloat
  rw [unsignedText_of_isWhole h] at hspecial
  simp only [dropSign_text, unsignedText_of_isWhole h, hspecial, nothing_text, hpoint.1, hpoint.2,
    Bool.or_self]

/-- A digit that does not start the digits to another base. -/
theorem isInteger_of_ne {c : Char} {s : List Char} (hc : c ≠ '0') (hs : ∀ x ∈ c :: s, x.isDigit) :
    isInteger (c :: s) = true := by
  have hcolon : ':' ∉ c :: s := fun hmem => absurd (hs _ hmem) (by decide)
  have hdigits : s.all isDigitOrGap = true := by
    refine List.all_eq_true.mpr fun x hx => ?_
    rw [isDigitOrGap, isDigit_eq (hs x (List.mem_cons_of_mem _ hx)), Bool.true_or]
  have hfirst : c.isDigit := hs c List.mem_cons_self
  unfold isInteger
  rw [dropSign_of_isDigit hfirst]
  split
  · next heq => exact absurd (List.cons.inj heq).1 hc
  · next heq => exact absurd (List.cons.inj heq).1 hc
  · next heq => exact absurd (List.cons.inj heq).1 hc
  · next heq => exact absurd (List.cons.inj heq).1 hc
  · rw [splitOn_of_notMem hcolon]
    simp only [isDigit_eq hfirst, hdigits, List.all_nil, Bool.and_self]

theorem isInteger_of_isWhole {n : Json.Number} (h : n.isWhole) : isInteger n.text = true := by
  have hsign : isInteger n.text = isInteger (unsignedText n) := by
    unfold isInteger
    rw [dropSign_text, dropSign_unsignedText]
  rw [hsign, unsignedText_of_isWhole h]
  rcases Nat.eq_zero_or_pos n.whole with hzero | hpos
  · rw [hzero]
    decide
  · obtain ⟨c, s, hdigits, hc⟩ := head_toDigits hpos
    rw [hdigits]
    exact isInteger_of_ne hc fun x hx => isDigit_of_mem_toDigits (hdigits ▸ hx)

theorem dropWhile_eq_self {p : Char → Bool} {s : List Char} (h : ∀ c ∈ s, p c = false) :
    s.dropWhile p = s := by
  cases s with
  | nil => rfl
  | cons c s => rw [List.dropWhile_cons_of_neg (by simp [h c List.mem_cons_self])]

/-- A text of visible ASCII characters has no padding. -/
theorem trimmed_eq_self {s : List Char} (h : ∀ c ∈ s, 33 ≤ c.toNat ∧ c.toNat < 127) :
    trimmed s = s := by
  have hpad : ∀ c ∈ s, isPadding s c = false := by
    intro c hc
    have hrange := h c hc
    have hascii : s.all (·.toNat < 128) = true :=
      List.all_eq_true.mpr fun x hx => decide_eq_true (Nat.lt_trans (h x hx).2 (by decide))
    rw [isPadding, if_pos hascii]
    simp only [isAsciiBlank, Bool.or_eq_false_iff, Bool.and_eq_false_iff, decide_eq_false_iff_not,
      beq_eq_false_iff_ne]
    omega
  unfold trimmed
  dsimp only
  rw [dropWhile_eq_self hpad, dropWhile_eq_self fun c hc => hpad c (List.mem_reverse.mp hc),
    List.reverse_reverse]

theorem dropBaseMark_ten (s : List Char) : dropBaseMark 10 s = s := by
  unfold dropBaseMark
  split
  · simp
  · rfl

theorem baseDigit?_ten {c : Char} (h : c.isDigit) : baseDigit? 10 c = some (c.toNat - '0'.toNat) := by
  have hrange := toNat_of_isDigit h
  have hvalue : ∀ d < 10, digitValue? (48 + d) = some d := by decide
  have hdigit := hvalue (c.toNat - 48) (by omega)
  rw [show 48 + (c.toNat - 48) = c.toNat by omega] at hdigit
  have hsmall : (decide (97 ≤ c.toNat) && decide (c.toNat ≤ 122)) = false := by simp; omega
  have hcapital : (decide (65 ≤ c.toNat) && decide (c.toNat ≤ 90)) = false := by simp; omega
  unfold baseDigit?
  simp only [hsmall, hcapital, hdigit, Bool.false_eq_true, if_false]
  rw [Option.filter_some, if_pos (by simp; omega)]
  rfl

theorem mapM_baseDigit? {s : List Char} (h : ∀ c ∈ s, c.isDigit) :
    s.mapM (baseDigit? 10) = some (s.map fun c => c.toNat - '0'.toNat) := by
  induction s with
  | nil => rfl
  | cons c s ih =>
    have hc := baseDigit?_ten (h c List.mem_cons_self)
    have hs := ih fun x hx => h x (List.mem_cons_of_mem _ hx)
    simp [List.mapM_cons, hc, hs]

/-- The digits of a number are read back, if they are not too many. -/
theorem numeral_toDigits {k : Nat} (h : (Nat.toDigits 10 k).length ≤ digitLimit) :
    numeral 10 (Nat.toDigits 10 k) = .ok (k : Int) := by
  have hdigits : ∀ c ∈ Nat.toDigits 10 k, c.isDigit := fun c => isDigit_of_mem_toDigits
  have htrim : trimmed (Nat.toDigits 10 k) = Nat.toDigits 10 k := by
    refine trimmed_eq_self fun c hc => ?_
    have hrange := toNat_of_isDigit (hdigits c hc)
    omega
  obtain ⟨c, s, hk⟩ := List.exists_cons_of_ne_nil (Nat.toDigits_ne_nil (n := k) (b := 10))
  have hc : c.isDigit := hdigits c (hk ▸ List.mem_cons_self)
  have hsign : dropSign (Nat.toDigits 10 k) = Nat.toDigits 10 k := by
    rw [hk, dropSign_of_isDigit hc]
  have hvalue : ((Nat.toDigits 10 k).map fun c => c.toNat - '0'.toNat).foldl (fun n d => 10 * n + d) 0 =
      k := by
    rw [List.foldl_map]
    exact Nat.ofDigitChars_ten_toDigits
  have hminus : ((Nat.toDigits 10 k).head? == some '-') = false := by
    rw [hk, beq_eq_false_iff_ne]
    rintro heq
    obtain rfl := Option.some.inj heq
    exact absurd hc (by decide)
  have hlimit : (10 == 10 && decide (digitLimit < (Nat.toDigits 10 k).length)) = false := by
    simp only [beq_self_eq_true, Bool.true_and, decide_eq_false_iff_not]
    omega
  unfold numeral
  simp only [htrim, hsign, dropBaseMark_ten, mapM_baseDigit? hdigits]
  split
  · next heq => cases heq
  · next heq => simp [hk] at heq
  · next heq =>
    obtain rfl := Option.some.inj heq
    simp only [List.length_map, hlimit, hvalue, hminus, Bool.false_eq_true, if_false]

theorem magnitude_toDigits {k : Nat} (h : (Nat.toDigits 10 k).length ≤ digitLimit) :
    magnitude (Nat.toDigits 10 k) = .ok (k : Int) := by
  rcases Nat.eq_zero_or_pos k with rfl | hpos
  · rfl
  · obtain ⟨c, s, hk, hc⟩ := head_toDigits hpos
    have hcolon : (Nat.toDigits 10 k).contains ':' = false := by
      rw [← Bool.not_eq_true, List.contains_iff_mem]
      exact fun hmem => absurd (isDigit_of_mem_toDigits hmem) (by decide)
    have hread := numeral_toDigits h
    rw [hk] at hcolon hread ⊢
    unfold magnitude
    split
    · next heq => cases heq
    · next heq => exact absurd (List.cons.inj heq).1 hc
    · next heq => exact absurd (List.cons.inj heq).1 hc
    · next heq => exact absurd (List.cons.inj heq).1 hc
    · next heq => exact absurd (List.cons.inj heq).1 hc
    · rw [hcolon]
      exact hread

theorem withoutGaps_text (n : Json.Number) : withoutGaps n.text = n.text := by
  refine List.filter_eq_self.mpr fun c hc => ?_
  rw [bne_iff_ne]
  exact isWordChar_ne (isWordChar_of_mem_numberText hc) (by decide)

theorem integer_text {n : Json.Number} (hwhole : n.isWhole)
    (hlimit : (Nat.toDigits 10 n.whole).length ≤ digitLimit) :
    integer n.text = .ok (if n.negative then -(n.whole : Int) else n.whole) := by
  have hsign : (n.text.head? == some '-') = n.negative := by
    obtain ⟨c, s, hn, hc⟩ := unsignedText_eq_cons n
    rw [text_eq, hn]
    cases n.negative with
    | true => rfl
    | false =>
      have hne : c ≠ '-' := by
        rintro rfl
        exact absurd hc (by decide)
      simpa using hne
  have hne : n.text.isEmpty = false := by
    obtain ⟨c, s, hn, -⟩ := Json.numberText_eq n
    rw [hn]
    rfl
  unfold integer
  simp only [withoutGaps_text, hne, dropSign_text, unsignedText_of_isWhole hwhole,
    magnitude_toDigits hlimit, hsign, Bool.false_eq_true, if_false]
  rfl

/-! ### Numbers with a fraction -/

theorem isExponent_text {e : Json.Exponent} (h : e.sign.isSome) : isExponent e.text = true := by
  obtain ⟨capital, sign, digits⟩ := e
  have hrun : isRunOf isDigit digits.chars = true := by
    have hne : digits.chars.isEmpty = false := by simpa using digits.ne_nil
    have hall : digits.chars.all isDigit = true :=
      List.all_eq_true.mpr fun c hc => isDigit_eq (digits.digit c hc)
    rw [isRunOf, hne, hall]
    rfl
  rcases sign with _ | _ | _
  · cases h
  · cases capital <;> simp [Json.Exponent.text, isExponent, hrun]
  · cases capital <;> simp [Json.Exponent.text, isExponent, hrun]

theorem head_exponentText {n : Json.Number} : ∀ c ∈ (exponentText n).head?, c = 'e' ∨ c = 'E' := by
  intro c hc
  unfold exponentText at hc
  cases he : n.exponent with
  | none => simp [he] at hc
  | some e =>
    rw [he] at hc
    obtain rfl := Option.some.inj hc
    split_ifs
    · exact Or.inr rfl
    · exact Or.inl rfl

theorem unsignedText_of_fraction {n : Json.Number} {d : Json.Digits} (h : n.fraction = some d) :
    unsignedText n = Nat.toDigits 10 n.whole ++ '.' :: (d.chars ++ exponentText n) := by
  rw [unsignedText, fractionText, h]
  rfl

theorem isFraction_of_signed {n : Json.Number} (d : Json.Digits)
    (h : n.exponent.all (·.sign.isSome)) : isFraction (d.chars ++ exponentText n) = true := by
  have hdigits : ∀ c ∈ d.chars, isDigitOrGap c = true := fun c hc => by
    rw [isDigitOrGap, isDigit_eq (d.digit c hc), Bool.true_or]
  have hstop : ∀ c ∈ (exponentText n).head?, isDigitOrGap c = false := by
    intro c hc
    rcases head_exponentText c hc with rfl | rfl
    · decide
    · decide
  unfold isFraction
  dsimp only
  rw [(span_append hdigits _ hstop).2, exponentText]
  cases he : n.exponent with
  | none => rfl
  | some e =>
    rw [he] at h
    simp only [Option.all_some] at h
    rw [isExponent_text h, Bool.or_true]

theorem isFloat_of_fraction {n : Json.Number} {d : Json.Digits} (hd : n.fraction = some d)
    (h : n.exponent.all (·.sign.isSome)) : isFloat n.text = true := by
  have hpoint := span_append (ne_point_of_mem_toDigits (k := n.whole))
    ('.' :: (d.chars ++ exponentText n)) (by simp)
  obtain ⟨c, s, hwhole⟩ := List.exists_cons_of_ne_nil (Nat.toDigits_ne_nil (n := n.whole) (b := 10))
  have hdigits : ∀ x ∈ c :: s, x.isDigit := fun x hx => isDigit_of_mem_toDigits (hwhole ▸ hx)
  have hcolon : s.contains ':' = false := by
    rw [← Bool.not_eq_true, List.contains_iff_mem]
    exact fun hmem => absurd (hdigits _ (List.mem_cons_of_mem _ hmem)) (by decide)
  have hrest : s.all isDigitOrGap = true := List.all_eq_true.mpr fun x hx => by
    rw [isDigitOrGap, isDigit_eq (hdigits x (List.mem_cons_of_mem _ hx)), Bool.true_or]
  have hfirst := isDigit_eq (hdigits c List.mem_cons_self)
  rw [hwhole] at hpoint
  unfold isFloat
  simp only [dropSign_text, unsignedText_of_fraction hd, hwhole, hpoint.1, hpoint.2, hcolon, hfirst,
    hrest, isFraction_of_signed d h, Bool.false_eq_true, if_false, Bool.and_self, Bool.or_true]

/-- A number with a small letter before its exponent. -/
def lowered (n : Json.Number) : Json.Number :=
  { n with exponent := n.exponent.map fun e => { e with capital := false } }

theorem flatMap_lowerChar_digits {s : List Char} (h : ∀ c ∈ s, c.isDigit) : s.flatMap lowerChar = s := by
  refine flatMap_lowerChar_eq_self fun c hc => ?_
  have hrange := toNat_of_isDigit (h c hc)
  omega

theorem flatMap_lowerChar_exponent (e : Json.Exponent) :
    e.text.flatMap lowerChar = Json.Exponent.text { e with capital := false } := by
  obtain ⟨capital, sign, digits⟩ := e
  have hletter : lowerChar (if capital then 'E' else 'e') = ['e'] := by cases capital <;> decide
  unfold Json.Exponent.text
  dsimp only
  rw [List.flatMap_cons, hletter, List.flatMap_append, flatMap_lowerChar_digits digits.digit]
  rcases sign with _ | _ | _
  · rfl
  · rfl
  · rfl

/-- There is no capital sigma in a number, so its characters are mapped one by one. -/
theorem toLower_text (n : Json.Number) : toLower n.text = (lowered n).text := by
  have hsigma : capitalSigma ∉ n.text := notMem_numberText (by decide)
  have hwhole : (Nat.toDigits 10 n.whole).flatMap lowerChar = Nat.toDigits 10 n.whole :=
    flatMap_lowerChar_digits fun c => isDigit_of_mem_toDigits
  have hsign : (if n.negative then ['-'] else []).flatMap lowerChar = if n.negative then ['-'] else [] := by
    cases n.negative <;> decide
  have hfraction : (fractionText n).flatMap lowerChar = fractionText (lowered n) := by
    unfold fractionText lowered
    cases n.fraction with
    | none => rfl
    | some d =>
      have hpoint : lowerChar '.' = ['.'] := by decide
      dsimp only
      rw [List.flatMap_cons, hpoint, flatMap_lowerChar_digits d.digit]
      rfl
  have hexponent : (exponentText n).flatMap lowerChar = exponentText (lowered n) := by
    unfold exponentText lowered
    cases n.exponent with
    | none => rfl
    | some e => exact flatMap_lowerChar_exponent e
  rw [toLower, toLowerFrom_of_notMem hsigma, text_eq, text_eq, unsignedText, unsignedText,
    List.flatMap_append, List.flatMap_append, List.flatMap_append, hsign, hwhole, hfraction, hexponent]
  rfl

theorem isDecimalExponent_lowered (n : Json.Number) :
    isDecimalExponent (exponentText (lowered n)) = true := by
  unfold exponentText lowered
  cases n.exponent with
  | none => rfl
  | some e =>
    obtain ⟨capital, sign, digits⟩ := e
    obtain ⟨c, s, hdigits⟩ := List.exists_cons_of_ne_nil digits.ne_nil
    have hc : c.isDigit := digits.digit c (hdigits ▸ List.mem_cons_self)
    have hrun : isRunOf isAnyDigit digits.chars = true := by
      have hne : digits.chars.isEmpty = false := by simpa using digits.ne_nil
      have hall : digits.chars.all isAnyDigit = true :=
        List.all_eq_true.mpr fun x hx => isAnyDigit_eq (digits.digit x hx)
      rw [isRunOf, hne, hall]
      rfl
    have hunsigned : dropSign digits.chars = digits.chars := by rw [hdigits, dropSign_of_isDigit hc]
    rcases sign with _ | _ | _
    · change isRunOf isAnyDigit (dropSign digits.chars) = true
      rw [hunsigned, hrun]
    · exact hrun
    · exact hrun

theorem isFloatLiteral_lowered {n : Json.Number} {d : Json.Digits} (h : n.fraction = some d) :
    isFloatLiteral (unsignedText (lowered n)) = true := by
  have htrim : trimmed (unsignedText (lowered n)) = unsignedText (lowered n) := by
    refine trimmed_eq_self fun c hc => ?_
    have hrange := Json.toNat_of_mem_numberText (mem_text_of_mem_unsigned hc)
    omega
  have htext := unsignedText_of_fraction (n := lowered n) h
  have hwhole : ∀ c ∈ Nat.toDigits 10 (lowered n).whole, isAnyDigit c = true := fun c hc =>
    isAnyDigit_eq (isDigit_of_mem_toDigits hc)
  have hdecimals : ∀ c ∈ d.chars, isAnyDigit c = true := fun c hc => isAnyDigit_eq (d.digit c hc)
  have hstop : ∀ c ∈ (exponentText (lowered n)).head?, isAnyDigit c = false := by
    intro c hc
    rcases head_exponentText c hc with rfl | rfl
    · decide
    · decide
  have hpoint : ∀ c ∈ ('.' :: (d.chars ++ exponentText (lowered n))).head?, isAnyDigit c = false := by
    intro c hc
    obtain rfl := Option.some.inj hc
    decide
  have hfirst := span_append hwhole _ hpoint
  have hsecond := span_append hdecimals _ hstop
  have hne : (Nat.toDigits 10 (lowered n).whole).isEmpty = false := by simp
  unfold isFloatLiteral
  simp only [htrim, dropSign_unsignedText]
  rw [htext]
  simp only [hfirst.1, hfirst.2, hsecond.1, hsecond.2, hne, isDecimalExponent_lowered, Bool.false_and,
    Bool.not_false, Bool.and_self, Bool.or_true]

theorem float_text {n : Json.Number} {d : Json.Digits} (h : n.fraction = some d) :
    float n.text = .ok () := by
  have hne : (lowered n).text.isEmpty = false := by
    obtain ⟨c, s, hn, -⟩ := Json.numberText_eq (lowered n)
    rw [hn]
    rfl
  have hcolon : ':' ∉ unsignedText (lowered n) := fun hmem =>
    notMem_numberText (by decide) (mem_text_of_mem_unsigned hmem)
  unfold float
  simp only [withoutGaps_text, toLower_text, hne, dropSign_text, Bool.false_eq_true, if_false]
  rw [splitOn_of_notMem hcolon, floatParts, if_pos (isFloatLiteral_lowered h), floatParts, ite_self]

/-! ### Values -/

/-- The node of a plain scalar. -/
def plainNode (text : String) : Node := ⟨Tag.ofScalar text, .scalar text⟩

theorem scalarValue_null : scalarValue (plainNode "null") "null" = .ok .null := rfl

theorem truthOf_eq {s : String} (h : ∀ c ∈ s.toList, c.toNat < 128 ∧ ¬ (65 ≤ c.toNat ∧ c.toNat ≤ 90)) :
    truthOf s =
      if Tag.truths.contains s then .ok true
      else if Tag.falsehoods.contains s then .ok false
      else .error (.unknownBool s) := by
  unfold truthOf
  rw [toLower_eq_self h, String.ofList_toList]

theorem scalarValue_true : scalarValue (plainNode "true") "true" = .ok (.bool true) := by
  have htag : (plainNode "true").tag = .bool := by decide
  unfold scalarValue
  rw [htag]
  dsimp only
  rw [truthOf_eq (by decide)]
  rfl

theorem scalarValue_false : scalarValue (plainNode "false") "false" = .ok (.bool false) := by
  have htag : (plainNode "false").tag = .bool := by decide
  unfold scalarValue
  rw [htag]
  dsimp only
  rw [truthOf_eq (by decide)]
  rfl

/-- **A portable number has the same value in YAML.** -/
theorem scalarValue_number {n : Json.Number} (h : n.isPortable) :
    scalarValue (plainNode (String.ofList n.text)) (String.ofList n.text) = .ok n.value := by
  unfold Json.Number.isPortable at h
  unfold scalarValue Json.Number.value
  by_cases hwhole : n.isWhole
  · rw [if_pos hwhole, decide_eq_true_eq] at h
    have htag : (plainNode (String.ofList n.text)).tag = .int := by
      rw [plainNode, ofScalar_text n (Or.inr (isInteger_of_isWhole hwhole)), isFloat_of_isWhole hwhole]
      rfl
    rw [htag, if_pos hwhole]
    dsimp only
    rw [String.toList_ofList, integer_text hwhole h]
    rfl
  · rw [if_neg hwhole, Bool.and_eq_true, Option.isSome_iff_exists] at h
    obtain ⟨⟨d, hd⟩, hsigned⟩ := h
    have hfloat := isFloat_of_fraction hd hsigned
    have htag : (plainNode (String.ofList n.text)).tag = .float := by
      rw [plainNode, ofScalar_text n (Or.inl hfloat), if_pos hfloat]
    rw [htag, if_neg hwhole]
    dsimp only
    rw [String.toList_ofList, float_text hd]
    rfl

end PatternLint.Yaml
