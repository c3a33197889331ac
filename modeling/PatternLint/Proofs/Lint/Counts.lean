import Mathlib.Tactic
import PatternLint.Lint.Result

/-!
# The counts of a result

Every finding is an error or a warning, so the two counts add up to the number of findings; the verdict
only tells whether there is an error.  Findings that are left out lower the counts and never turn a
passing result into a failing one.
-/

namespace PatternLint

namespace LintResult

theorem errorCount_add_warningCount (r : LintResult) :
    r.errorCount + r.warningCount = r.annotations.length := by
  rw [List.length_eq_countP_add_countP (fun a : Annotation => a.isError)]
  unfold errorCount warningCount
  congr 1
  refine List.countP_congr fun a _ => ?_
  unfold Annotation.isError
  cases a.severity <;> decide

theorem verdict_eq_passing_iff (r : LintResult) : r.verdict = .passing ↔ r.errorCount = 0 := by
  unfold verdict errorCount
  rw [List.countP_eq_zero]
  split_ifs with h
  · obtain ⟨a, ha, herror⟩ := List.any_eq_true.mp h
    exact ⟨fun hpass => absurd hpass (by decide), fun hnone => absurd herror (hnone a ha)⟩
  · exact ⟨fun _ a ha herror => h (List.any_eq_true.mpr ⟨a, ha, herror⟩), fun _ => rfl⟩

theorem verdict_eq_failing_iff (r : LintResult) : r.verdict = .failing ↔ 0 < r.errorCount := by
  rw [Nat.pos_iff_ne_zero, Ne, ← verdict_eq_passing_iff]
  cases r.verdict <;> simp

section

variable {r s : LintResult}

theorem errorCount_le (h : r.annotations.Sublist s.annotations) : r.errorCount ≤ s.errorCount :=
  h.countP_le

theorem warningCount_le (h : r.annotations.Sublist s.annotations) :
    r.warningCount ≤ s.warningCount :=
  h.countP_le

theorem passing_of_sublist (h : r.annotations.Sublist s.annotations) (hs : s.verdict = .passing) :
    r.verdict = .passing := by
  rw [verdict_eq_passing_iff] at hs ⊢
  have := errorCount_le h
  omega

end

end LintResult

end PatternLint
