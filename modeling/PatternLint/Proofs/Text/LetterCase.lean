import Mathlib.Tactic
import PatternLint.Text.LetterCase

/-!
# Lower case character by character

Of the runs of the case map only that of the capitals starts below 128 (`lowerCode_of_ascii`), so `lowerChar` follows
the map for all characters but one (`lowerChar_eq`).  In a text without a capital sigma the characters are mapped one
by one (`toLowerFrom_of_notMem`).
-/

namespace PatternLint.Text

/-- The run of the capitals of ASCII. -/
def IsCapitals (r : CaseRun) : Prop := r.first = 65 ∧ r.last = 90 ∧ r.step = 1 ∧ r.target = 97

instance : DecidablePred IsCapitals := fun r =>
  inferInstanceAs (Decidable (r.first = 65 ∧ r.last = 90 ∧ r.step = 1 ∧ r.target = 97))

theorem lowerRuns_capitals :
    (∃ r ∈ lowerRuns.toList, IsCapitals r) ∧
      ∀ r ∈ lowerRuns.toList, IsCapitals r ∨ 128 ≤ r.first := by
  decide +kernel

theorem IsCapitals.covers {r : CaseRun} (h : IsCapitals r) (n : Nat) :
    r.covers n ↔ 65 ≤ n ∧ n ≤ 90 := by
  obtain ⟨hfirst, hlast, hstep, -⟩ := h
  simp [CaseRun.covers, hfirst, hlast, hstep, Nat.mod_one]

theorem lowerCode_of_ascii {n : Nat} (h : n < 128) : lowerCode n = lowerAscii n := by
  obtain ⟨⟨capitals, hmem, hcapitals⟩, hruns⟩ := lowerRuns_capitals
  have hcovers : ∀ r ∈ lowerRuns.toList, r.covers n → IsCapitals r := by
    intro r hr hc
    refine (hruns r hr).resolve_right fun hfirst => ?_
    simp only [CaseRun.covers, Bool.and_eq_true, decide_eq_true_eq] at hc
    omega
  unfold lowerCode lowerAscii
  rw [← Array.find?_toList]
  cases hfind : lowerRuns.toList.find? (·.covers n) with
  | none =>
    have hnot : ¬ (65 ≤ n ∧ n ≤ 90) := by
      rw [← hcapitals.covers n]
      exact List.find?_eq_none.mp hfind capitals hmem
    simp [hnot]
  | some r =>
    have hfound := List.find?_some hfind
    have hr := hcovers r (List.mem_of_find?_eq_some hfind) hfound
    have hcap := (hr.covers n).mp hfound
    obtain ⟨hfirst, -, -, htarget⟩ := hr
    simp only [CaseRun.image, hfirst, htarget, hcap, decide_true, Bool.and_self, if_true]
    omega

/-- `lowerChar` is the case map but for the one character whose lower case has two. -/
theorem lowerChar_eq {c : Char} (h : c.toNat ≠ 0x130) : lowerChar c = [Char.ofNat (lowerCode c.toNat)] := by
  unfold lowerChar
  by_cases hascii : c.toNat < 128
  · simp [hascii, lowerCode_of_ascii hascii]
  · simp [hascii, h]

/-- Without a capital sigma the characters of a text are mapped one by one. -/
theorem toLowerFrom_of_notMem {s : List Char} (h : capitalSigma ∉ s) (before : List Char) :
    toLowerFrom before s = s.flatMap lowerChar := by
  induction s generalizing before with
  | nil => rfl
  | cons c s ih =>
    have hc : c ≠ capitalSigma := fun heq => h (heq ▸ List.mem_cons_self)
    rw [toLowerFrom, if_neg hc, ih fun hmem => h (List.mem_cons_of_mem c hmem), List.flatMap_cons]

theorem flatMap_lowerChar_eq_self {s : List Char}
    (h : ∀ c ∈ s, c.toNat < 128 ∧ ¬ (65 ≤ c.toNat ∧ c.toNat ≤ 90)) : s.flatMap lowerChar = s := by
  have hsigma : capitalSigma ∉ s := fun hmem => absurd (h _ hmem).1 (by decide)
  rw [← toLowerFrom_of_notMem hsigma [], toLowerFrom_eq_self h]

end PatternLint.Text
