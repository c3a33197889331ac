import Mathlib.Tactic
import PatternLint.Text.Utf8

/-!
# Reading UTF-8 inverts writing it

`Spells l n` gives the sequences of octets that stand for one character, with its number: a lead octet
and the right number of continuation octets, the first of them restricted.  These are exactly the
sequences that `String.utf8EncodeChar` writes (`encodeChar_of_spells`, `spells_encodeChar`), and `decode`
takes one of them after the other (`decodeFrom_append`, `decodeFrom_eq_ok`).  So `decode` succeeds exactly
on the octets of a text, and gives this text back (`decode_eq_ok_iff`).
-/

namespace PatternLint.Text

/-- The octets `l` spell the character with the number `n`. -/
inductive Spells : List UInt8 → ℕ → Prop
  | one {a : UInt8} (ha : a.toNat < 0x80) : Spells [a] a.toNat
  | two {a b : UInt8} (ha : 0xC2 ≤ a.toNat ∧ a.toNat < 0xE0) (hb : isContinuation b = true) :
    Spells [a, b] (a.toNat % 32 * 64 + tailBits b)
  | three {a b c : UInt8} (ha : 0xE0 ≤ a.toNat ∧ a.toNat < 0xF0) (hb : isSecond a b = true)
    (hc : isContinuation c = true) :
    Spells [a, b, c] (a.toNat % 16 * 4096 + tailBits b * 64 + tailBits c)
  | four {a b c d : UInt8} (ha : 0xF0 ≤ a.toNat ∧ a.toNat ≤ 0xF4) (hb : isSecond a b = true)
    (hc : isContinuation c = true) (hd : isContinuation d = true) :
    Spells [a, b, c, d]
      (a.toNat % 8 * 262144 + tailBits b * 4096 + tailBits c * 64 + tailBits d)

/-! ### The sequences of one character -/

theorem isContinuation_iff {b : UInt8} :
    isContinuation b = true ↔ 0x80 ≤ b.toNat ∧ b.toNat ≤ 0xBF := by
  simp [isContinuation, UInt8.le_iff_toNat_le]

theorem isSecond_iff {a b : UInt8} :
    isSecond a b = true ↔ (0x80 ≤ b.toNat ∧ b.toNat ≤ 0xBF) ∧ (a.toNat = 0xE0 → 0xA0 ≤ b.toNat) ∧
      (a.toNat = 0xED → b.toNat ≤ 0x9F) ∧ (a.toNat = 0xF0 → 0x90 ≤ b.toNat) ∧
      (a.toNat = 0xF4 → b.toNat ≤ 0x8F) := by
  simp only [isSecond, Bool.and_eq_true, isContinuation_iff, beq_iff_eq, ← UInt8.toNat_inj]
  split_ifs <;> simp_all [UInt8.le_iff_toNat_le]

theorem ofNat_eq_iff {k : ℕ} {a : UInt8} : UInt8.ofNat k = a ↔ k % 256 = a.toNat := by
  rw [← UInt8.toNat_inj, UInt8.toNat_ofNat']

theorem val_ofNat {n : ℕ} (h : n.isValidChar) : (Char.ofNat n).val.toNat = n := by
  rw [Char.ofNat, dif_pos h]
  rfl

/-- Writing the character that some octets spell gives these octets. -/
theorem encodeChar_of_spells {l : List UInt8} {n : ℕ} (h : Spells l n) :
    String.utf8EncodeChar (Char.ofNat n) = l := by
  cases h with
  | one ha =>
    rw [String.utf8EncodeChar, val_ofNat (Or.inl (by omega)), if_pos (by omega), UInt8.ofNat_toNat]
  | two ha hb =>
    rw [isContinuation_iff] at hb
    unfold tailBits
    rw [String.utf8EncodeChar, val_ofNat (Or.inl (by omega)), if_neg (by omega), if_pos (by omega)]
    simp only [List.cons.injEq, ofNat_eq_iff, and_true]
    omega
  | @three a b c ha hb hc =>
    rw [isSecond_iff] at hb
    rw [isContinuation_iff] at hc
    unfold tailBits
    -- the second octet keeps the number out of the surrogates
    have hvalid : (a.toNat % 16 * 4096 + b.toNat % 64 * 64 + c.toNat % 64).isValidChar := by
      unfold Nat.isValidChar
      omega
    rw [String.utf8EncodeChar, val_ofNat hvalid, if_neg (by omega), if_neg (by omega),
      if_pos (by omega)]
    simp only [List.cons.injEq, ofNat_eq_iff, and_true]
    omega
  | @four a b c d ha hb hc hd =>
    rw [isSecond_iff] at hb
    rw [isContinuation_iff] at hc hd
    unfold tailBits
    have hvalid : (a.toNat % 8 * 262144 + b.toNat % 64 * 4096 + c.toNat % 64 * 64 +
        d.toNat % 64).isValidChar := by
      unfold Nat.isValidChar
      omega
    rw [String.utf8EncodeChar, val_ofNat hvalid, if_neg (by omega), if_neg (by omega),
      if_neg (by omega)]
    simp only [List.cons.injEq, ofNat_eq_iff, and_true]
    omega

/-- The octets that are written for a character spell it. -/
theorem spells_encodeChar (c : Char) : Spells (String.utf8EncodeChar c) c.toNat := by
  have hvalid : c.toNat < 0xD800 ∨ 0xDFFF < c.toNat ∧ c.toNat < 0x110000 := c.valid
  rw [String.utf8EncodeChar, Char.toNat_val]
  generalize c.toNat = n at hvalid
  -- every octet is named, with its number, and the number of the character is put together again
  split_ifs with h1 h2 h3
  · have ha := UInt8.toNat_ofNat' (n := n)
    generalize UInt8.ofNat n = a at ha ⊢
    obtain rfl : n = a.toNat := by omega
    exact .one (by omega)
  · have ha := UInt8.toNat_ofNat' (n := n / 64 % 32 + 0xC0)
    have hb := UInt8.toNat_ofNat' (n := n % 64 + 0x80)
    generalize UInt8.ofNat (n / 64 % 32 + 0xC0) = a at ha ⊢
    generalize UInt8.ofNat (n % 64 + 0x80) = b at hb ⊢
    obtain rfl : n = a.toNat % 32 * 64 + tailBits b := by unfold tailBits; omega
    exact .two (by omega) (isContinuation_iff.mpr (by omega))
  · have ha := UInt8.toNat_ofNat' (n := n / 4096 % 16 + 0xE0)
    have hb := UInt8.toNat_ofNat' (n := n / 64 % 64 + 0x80)
    have hc := UInt8.toNat_ofNat' (n := n % 64 + 0x80)
    generalize UInt8.ofNat (n / 4096 % 16 + 0xE0) = a at ha ⊢
    generalize UInt8.ofNat (n / 64 % 64 + 0x80) = b at hb ⊢
    generalize UInt8.ofNat (n % 64 + 0x80) = c at hc ⊢
    obtain rfl : n = a.toNat % 16 * 4096 + tailBits b * 64 + tailBits c := by unfold tailBits; omega
    exact .three (by omega) (isSecond_iff.mpr (by omega)) (isContinuation_iff.mpr (by omega))
  · have ha := UInt8.toNat_ofNat' (n := n / 262144 % 8 + 0xF0)
    have hb := UInt8.toNat_ofNat' (n := n / 4096 % 64 + 0x80)
    have hc := UInt8.toNat_ofNat' (n := n / 64 % 64 + 0x80)
    have hd := UInt8.toNat_ofNat' (n := n % 64 + 0x80)
    generalize UInt8.ofNat (n / 262144 % 8 + 0xF0) = a at ha ⊢
    generalize UInt8.ofNat (n / 4096 % 64 + 0x80) = b at hb ⊢
    generalize UInt8.ofNat (n / 64 % 64 + 0x80) = c at hc ⊢
    generalize UInt8.ofNat (n % 64 + 0x80) = d at hd ⊢
    obtain rfl : n = a.toNat % 8 * 262144 + tailBits b * 4096 + tailBits c * 64 + tailBits d := by
      unfold tailBits; omega
    exact .four (by omega) (isSecond_iff.mpr (by omega)) (isContinuation_iff.mpr (by omega))
      (isContinuation_iff.mpr (by omega))

/-! ### Sequences of characters -/

/-- The test that turns away octets that start no character. -/
theorem not_badLead {a : UInt8} :
    ¬ (decide (a < 0xC2) || decide (0xF4 < a)) = true ↔ 0xC2 ≤ a.toNat ∧ a.toNat ≤ 0xF4 := by
  simp [UInt8.le_iff_toNat_le]

theorem not_lt_of_le_toNat {a k : UInt8} (h : k.toNat ≤ a.toNat) : ¬ a < k := by
  rw [UInt8.lt_iff_toNat_lt]
  omega

/-- Octets that spell a character are taken as a whole. -/
theorem decodeFrom_append {l : List UInt8} {n : ℕ} (h : Spells l n) (acc : List Char) (pos : ℕ)
    (rest : List UInt8) :
    decodeFrom acc pos (l ++ rest) = decodeFrom (Char.ofNat n :: acc) (pos + l.length) rest := by
  cases h with
  | one ha =>
    rw [List.singleton_append, decodeFrom.eq_def]
    dsimp only
    rw [if_pos (UInt8.lt_iff_toNat_lt.mpr ha)]
    rfl
  | two ha hb =>
    rw [List.cons_append, List.singleton_append, decodeFrom.eq_def]
    dsimp only
    rw [if_neg (not_lt_of_le_toNat (show 0x80 ≤ _ by omega)), if_neg (not_badLead.mpr (by omega)),
      if_pos (UInt8.lt_iff_toNat_lt.mpr ha.2), if_pos hb]
    rfl
  | three ha hb hc =>
    rw [List.cons_append, List.cons_append, List.singleton_append, decodeFrom.eq_def]
    dsimp only
    rw [if_neg (not_lt_of_le_toNat (show 0x80 ≤ _ by omega)), if_neg (not_badLead.mpr (by omega)),
      if_neg (not_lt_of_le_toNat (show 0xE0 ≤ _ by omega)),
      if_pos (UInt8.lt_iff_toNat_lt.mpr ha.2), if_neg (by simp [hb]), if_pos hc]
    rfl
  | four ha hb hc hd =>
    rw [List.cons_append, List.cons_append, List.cons_append, List.singleton_append,
      decodeFrom.eq_def]
    dsimp only
    rw [if_neg (not_lt_of_le_toNat (show 0x80 ≤ _ by omega)), if_neg (not_badLead.mpr (by omega)),
      if_neg (not_lt_of_le_toNat (show 0xE0 ≤ _ by omega)),
      if_neg (not_lt_of_le_toNat (show 0xF0 ≤ _ by omega)),
      if_neg (by simp [hb]), if_neg (by simp [hc]), if_pos hd]
    rfl

/-- Some characters have these octets, and come behind those that are read already. -/
def Continues (bytes : List UInt8) (acc out : List Char) : Prop :=
  ∃ cs : List Char, bytes = cs.flatMap String.utf8EncodeChar ∧ out = acc.reverse ++ cs

theorem Continues.cons {l rest : List UInt8} {n : ℕ} {acc out : List Char} (h : Spells l n)
    (hrest : Continues rest (Char.ofNat n :: acc) out) : Continues (l ++ rest) acc out := by
  obtain ⟨cs, rfl, rfl⟩ := hrest
  refine ⟨Char.ofNat n :: cs, ?_, by simp⟩
  rw [List.flatMap_cons, encodeChar_of_spells h]

/-- Only octets of characters are read to the end. -/
theorem decodeFrom_eq_ok {acc : List Char} {pos : ℕ} {bytes : List UInt8} {out : List Char}
    (h : decodeFrom acc pos bytes = .ok out) : Continues bytes acc out := by
  fun_induction decodeFrom acc pos bytes with
  | case1 acc pos => exact ⟨[], rfl, by simpa using h.symm⟩
  | case2 acc pos a rest ha ih => exact .cons (.one (UInt8.lt_iff_toNat_lt.mp ha)) (ih h)
  | case5 acc pos a ha hlead ha' b rest hb ih =>
    have hlead := not_badLead.mp hlead
    exact .cons (.two ⟨hlead.1, UInt8.lt_iff_toNat_lt.mp ha'⟩ hb) (ih h)
  | case10 acc pos a ha hlead hlow ha' b hb c rest hc ih =>
    have hlow : 0xE0 ≤ a.toNat := UInt8.le_iff_toNat_le.mp (UInt8.not_lt.mp hlow)
    have hb : isSecond a b = true := by simpa using hb
    exact .cons (.three ⟨hlow, UInt8.lt_iff_toNat_lt.mp ha'⟩ hb hc) (ih h)
  | case17 acc pos a ha hlead _ hlow b hb c hc d rest hd ih =>
    have hlow : 0xF0 ≤ a.toNat := UInt8.le_iff_toNat_le.mp (UInt8.not_lt.mp hlow)
    have hb : isSecond a b = true := by simpa using hb
    have hc : isContinuation c = true := by simpa using hc
    exact .cons (.four ⟨hlow, (not_badLead.mp hlead).2⟩ hb hc hd) (ih h)
  | _ => simp at h

/-- Octets of characters are read to the end. -/
theorem decodeFrom_encodeChars (cs : List Char) (acc : List Char) (pos : ℕ) :
    decodeFrom acc pos (cs.flatMap String.utf8EncodeChar) = .ok (acc.reverse ++ cs) := by
  induction cs generalizing acc pos with
  | nil => simp [decodeFrom]
  | cons c cs ih =>
    rw [List.flatMap_cons, decodeFrom_append (spells_encodeChar c), ih, Char.ofNat_toNat]
    simp

/-- **Reading accepts exactly the octets of a text and gives the text back**, with all its line ends
and a mark at its start. -/
theorem decode_eq_ok_iff {bytes : List UInt8} {text : String} :
    decode bytes = .ok text ↔ bytes = encode text := by
  unfold decode encode
  constructor
  · intro h
    cases hfrom : decodeFrom [] 0 bytes with
    | error e => simp [hfrom, Except.map] at h
    | ok out =>
      obtain ⟨cs, hbytes, hout⟩ := decodeFrom_eq_ok hfrom
      simp only [hfrom, Except.map, Except.ok.injEq] at h
      subst h hout
      simpa using hbytes
  · rintro rfl
    rw [decodeFrom_encodeChars]
    simp [Except.map]

end PatternLint.Text
