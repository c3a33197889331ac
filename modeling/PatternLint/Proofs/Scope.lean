import Mathlib.Data.List.Infix
import Mathlib.Tactic
import PatternLint.Rule

/-!
# Scopes see a path through its normal form

A normalized path has no backslash and no `./` at its start, so normalizing it once more changes
nothing.  Globs normalize the path they are matched against; hence globs, scopes and whole rule sets
decide alike on a path and on its normal form.
-/

namespace PatternLint

namespace Path

theorem dropDots_suffix (s : List Char) : dropDots s <:+ s := by
  fun_induction dropDots s with
  | case1 rest ih => exact ih.trans ⟨['.', '/'], rfl⟩
  | case2 s h => exact List.suffix_refl s

theorem dropDots_dropDots (s : List Char) : dropDots (dropDots s) = dropDots s := by
  fun_induction dropDots s with
  | case1 rest ih => exact ih
  | case2 s h => rw [dropDots]; exact h

theorem slashed_slashed (c : Char) : slashed (slashed c) = slashed c := by
  unfold slashed
  split_ifs <;> simp_all

theorem normalizeChars_normalizeChars (s : List Char) :
    normalizeChars (normalizeChars s) = normalizeChars s := by
  unfold normalizeChars
  -- no backslash is left once all of them are slashes
  have hid : ∀ c ∈ dropDots (s.map slashed), slashed c = c := by
    intro c hc
    obtain ⟨d, -, rfl⟩ := List.mem_map.mp ((dropDots_suffix _).subset hc)
    exact slashed_slashed d
  rw [List.map_congr_left hid, List.map_id', dropDots_dropDots]

theorem normalize_normalize (s : String) : normalize (normalize s) = normalize s := by
  unfold normalize
  rw [String.toList_ofList, normalizeChars_normalizeChars]

end Path

theorem Glob.isMatch_normalize (path glob : String) :
    Glob.isMatch (Path.normalize path) glob = Glob.isMatch path glob := by
  unfold Glob.isMatch Glob.matchesChars Path.normalize
  rw [String.toList_ofList, Path.normalizeChars_normalizeChars]

theorem Glob.matchesAny_normalize (path : String) (globs : List String) :
    Glob.matchesAny (Path.normalize path) globs = Glob.matchesAny path globs := by
  unfold Glob.matchesAny
  rw [funext (Glob.isMatch_normalize path)]

theorem Scope.admits_normalize (s : Scope) (path : String) :
    s.admits (Path.normalize path) = s.admits path := by
  unfold Scope.admits
  simp only [Glob.matchesAny_normalize]

theorem RuleSet.appliesTo_normalize (s : RuleSet) (r : Rule) (path : String) :
    s.appliesTo r (Path.normalize path) = s.appliesTo r path := by
  unfold RuleSet.appliesTo
  rw [Scope.admits_normalize, Scope.admits_normalize]

end PatternLint
