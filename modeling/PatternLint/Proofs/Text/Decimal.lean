import Mathlib.Tactic

/-!
# Reading whole numbers

`readInt` reads a whole number from the start of a text: a minus sign if there is one, and then either
a single zero or digits that do not start with one.  It reads back every number that is written, unless
further digits follow it (`readInt_repr`).
-/

namespace PatternLint.Text

/-- What is said of each character of a text is decided along the text, not over all the characters
that there are. -/
instance (priority := 1100) decidableForallChars (s : List Char) (p : Char → Prop) [DecidablePred p] :
    Decidable (∀ c ∈ s, p c) :=
  List.decidableBAll p s

/-- Reads a number without a sign; behind a leading zero nothing more is read. -/
def readNat : List Char → Option (Nat × List Char)
  | '0' :: rest => some (0, rest)
  | s =>
    let digits := s.takeWhile Char.isDigit
    if digits.isEmpty then none else some (Nat.ofDigitChars 10 digits 0, s.dropWhile Char.isDigit)

def readInt : List Char → Option (Int × List Char)
  | '-' :: s => (readNat s).map fun (n, rest) => (-(n : Int), rest)
  | s => (readNat s).map fun (n, rest) => ((n : Int), rest)

theorem readNat_length {s rest : List Char} {n : Nat} (h : readNat s = some (n, rest)) :
    rest.length < s.length := by
  unfold readNat at h
  split at h
  · obtain ⟨-, rfl⟩ := Prod.mk.inj (Option.some.inj h)
    simp
  · dsimp only at h
    split_ifs at h with hempty
    obtain ⟨-, rfl⟩ := Prod.mk.inj (Option.some.inj h)
    have hsplit := congrArg List.length (List.takeWhile_append_dropWhile (p := Char.isDigit) (l := s))
    have hpos : 0 < (s.takeWhile Char.isDigit).length :=
      List.length_pos_iff.mpr fun hnil => hempty (by simp [hnil])
    rw [List.length_append] at hsplit
    omega

theorem readInt_length {s rest : List Char} {n : Int} (h : readInt s = some (n, rest)) :
    rest.length < s.length := by
  unfold readInt at h
  split at h
  · obtain ⟨⟨m, last⟩, hread, heq⟩ := Option.map_eq_some_iff.mp h
    obtain ⟨-, rfl⟩ := Prod.mk.inj heq
    have := readNat_length hread
    simp only [List.length_cons]
    omega
  · obtain ⟨⟨m, last⟩, hread, heq⟩ := Option.map_eq_some_iff.mp h
    obtain ⟨-, rfl⟩ := Prod.mk.inj heq
    exact readNat_length hread

/-- The text does not go on with a digit. -/
def NoDigit (s : List Char) : Prop := ∀ c ∈ s.head?, c.isDigit = false

theorem noDigit_nil : NoDigit [] := by
  simp [NoDigit]

theorem noDigit_cons {c : Char} (h : c.isDigit = false) (s : List Char) : NoDigit (c :: s) := by
  simp [NoDigit, h]

theorem NoDigit.takeWhile_append {digits s : List Char} (h : NoDigit s)
    (hdigits : ∀ c ∈ digits, c.isDigit) : (digits ++ s).takeWhile Char.isDigit = digits := by
  rw [List.takeWhile_append_of_pos hdigits]
  cases s with
  | nil => simp
  | cons c s => simp [h c rfl]

theorem NoDigit.dropWhile_append {digits s : List Char} (h : NoDigit s)
    (hdigits : ∀ c ∈ digits, c.isDigit) : (digits ++ s).dropWhile Char.isDigit = s := by
  rw [List.dropWhile_append_of_pos hdigits]
  cases s with
  | nil => simp
  | cons c s => simp [h c rfl]

/-- No number but zero is written with a leading zero. -/
theorem head_toDigits {n : Nat} (h : 0 < n) :
    ∃ c digits, Nat.toDigits 10 n = c :: digits ∧ c ≠ '0' := by
  induction n using Nat.strong_induction_on with
  | _ n ih =>
    by_cases hn : n < 10
    · refine ⟨n.digitChar, [], Nat.toDigits_of_lt_base hn, ?_⟩
      interval_cases n <;> decide
    · obtain ⟨c, digits, hc, hne⟩ := ih (n / 10) (by omega) (by omega)
      refine ⟨c, digits ++ [(n % 10).digitChar], ?_, hne⟩
      rw [Nat.toDigits_of_base_le (by decide) (by omega), hc, List.cons_append]

theorem readNat_toDigits (n : Nat) {rest : List Char} (h : NoDigit rest) :
    readNat (Nat.toDigits 10 n ++ rest) = some (n, rest) := by
  rcases Nat.eq_zero_or_pos n with rfl | hpos
  · rfl
  · obtain ⟨c, digits, hdigits, hc⟩ := head_toDigits hpos
    have hall : ∀ x ∈ c :: digits, x.isDigit := fun x hx =>
      Nat.isDigit_of_mem_toDigits (by decide) (by decide) (hdigits ▸ hx)
    have hvalue : Nat.ofDigitChars 10 (c :: digits) 0 = n := by
      rw [← hdigits, Nat.ofDigitChars_ten_toDigits]
    rw [hdigits, List.cons_append, readNat]
    · rw [← List.cons_append, h.takeWhile_append hall, h.dropWhile_append hall, hvalue]
      rfl
    · rintro s hs
      exact hc (List.cons.inj hs).1

theorem toList_repr (n : Int) :
    n.repr.toList = if 0 ≤ n then Nat.toDigits 10 n.toNat else '-' :: Nat.toDigits 10 (-n).toNat := by
  rw [Int.repr_eq_if]
  split_ifs <;> simp [Nat.repr_eq_ofList_toDigits]

/-- **Numbers are read back.** -/
theorem readInt_repr (n : Int) {rest : List Char} (h : NoDigit rest) :
    readInt (n.repr.toList ++ rest) = some (n, rest) := by
  rw [toList_repr]
  split_ifs with hn
  · rw [readInt, readNat_toDigits _ h]
    · simp [hn]
    · -- a minus sign is no digit, so it does not start the digits of a number
      intro s hs
      have hread := readNat_toDigits n.toNat h
      rw [hs] at hread
      simp [readNat] at hread
  · rw [List.cons_append, readInt, readNat_toDigits _ h]
    simp
    omega

/-- The number that a whole text spells. -/
def wholeInt? (s : String) : Option Int :=
  match readInt s.toList with
  | some (n, []) => some n
  | _ => none

@[simp] theorem wholeInt?_repr (n : Int) : wholeInt? n.repr = some n := by
  have hread := readInt_repr n noDigit_nil
  rw [List.append_nil] at hread
  rw [wholeInt?, hread]

end PatternLint.Text
