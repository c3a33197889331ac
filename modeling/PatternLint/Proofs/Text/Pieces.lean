import Mathlib.Data.List.DropRight
import Mathlib.Tactic
import PatternLint.Text.Lines

/-!
# The pieces of a text between its separators

`splitOn` cuts a text at every separator and loses nothing else: the pieces with separators between them
are the text again.  A cut at one separator leaves the pieces on both sides as they are
(`splitOn_append_cons`), and the last piece is what stands behind the last separator.
-/

namespace PatternLint.Text

theorem splitOn_ne_nil (sep : Char) (s : List Char) : splitOn sep s ≠ [] := by
  cases s with
  | nil => simp [splitOn]
  | cons c s =>
    rw [splitOn]
    split_ifs
    · simp
    · split <;> simp

theorem splitOn_append_cons (sep : Char) (s rest : List Char) :
    splitOn sep (s ++ sep :: rest) = splitOn sep s ++ splitOn sep rest := by
  induction s with
  | nil => simp [splitOn]
  | cons c s ih =>
    rw [List.cons_append, splitOn, splitOn, ih]
    obtain ⟨piece, pieces, hs⟩ := List.exists_cons_of_ne_nil (splitOn_ne_nil sep s)
    by_cases hc : c = sep
    · rw [if_pos hc, if_pos hc, List.cons_append]
    · rw [if_neg hc, if_neg hc, hs]
      rfl

theorem splitOn_of_notMem {sep : Char} {s : List Char} (h : sep ∉ s) : splitOn sep s = [s] := by
  induction s with
  | nil => rfl
  | cons c s ih =>
    rw [List.mem_cons, not_or] at h
    obtain ⟨hc, hs⟩ := h
    simp [splitOn, Ne.symm hc, ih hs]

theorem splitOn_append {sep : Char} {s : List Char} (h : sep ∉ s) (rest : List Char) :
    splitOn sep (s ++ sep :: rest) = s :: splitOn sep rest := by
  rw [splitOn_append_cons, splitOn_of_notMem h, List.singleton_append]

/-- The last piece is what stands behind the last separator. -/
theorem getLastD_splitOn (sep : Char) (s : List Char) :
    (splitOn sep s).getLastD [] = s.rtakeWhile (· != sep) := by
  set last := s.rtakeWhile (· != sep) with hlast
  have hsplit : s.rdropWhile (· != sep) ++ last = s := List.rdropWhile_append_rtakeWhile
  have hpiece : splitOn sep last = [last] := by
    refine splitOn_of_notMem fun hmem => ?_
    simpa using List.mem_rtakeWhile_imp hmem
  rcases List.eq_nil_or_concat (s.rdropWhile (· != sep)) with hnil | ⟨front, c, hfront⟩
  · rw [hnil, List.nil_append] at hsplit
    rw [← hsplit, hpiece]
    rfl
  · -- what ends the text before the last piece is a separator
    obtain rfl : c = sep := by
      have hnot := List.rdropWhile_last_not (· != sep) s (by simp [hfront])
      simpa [hfront] using hnot
    rw [← hsplit, hfront, List.concat_eq_append, List.append_assoc, List.singleton_append,
      splitOn_append_cons, hpiece]
    simp

theorem intercalate_splitOn (sep : Char) (s : List Char) :
    List.intercalate [sep] (splitOn sep s) = s := by
  induction s with
  | nil => simp [splitOn]
  | cons c s ih =>
    rw [splitOn]
    cases hs : splitOn sep s with
    | nil =>
      rw [hs] at ih
      simp only [List.intercalate_nil] at ih
      subst ih
      by_cases hc : c = sep <;> simp [splitOn] at hs
    | cons piece pieces =>
      rw [hs] at ih
      by_cases hc : c = sep
      · subst hc
        rw [if_pos rfl, List.intercalate_cons_cons, ih]
        rfl
      · rw [if_neg hc, ← ih]
        cases pieces with
        | nil => simp
        | cons next pieces => simp [List.intercalate_cons_cons]

theorem mem_of_mem_splitOn {c sep : Char} {s piece : List Char} (hpiece : piece ∈ splitOn sep s)
    (hc : c ∈ piece) : c ∈ s := by
  induction s generalizing piece with
  | nil => simp_all [splitOn]
  | cons x s ih =>
    rw [splitOn] at hpiece
    split_ifs at hpiece with hx
    · rcases List.mem_cons.mp hpiece with rfl | h
      · simp at hc
      · exact List.mem_cons_of_mem _ (ih h hc)
    · split at hpiece
      · simp_all
      · rename_i first pieces hs
        rcases List.mem_cons.mp hpiece with rfl | h
        · rcases List.mem_cons.mp hc with rfl | hc
          · exact List.mem_cons_self
          · exact List.mem_cons_of_mem _ (ih (hs ▸ List.mem_cons_self) hc)
        · exact List.mem_cons_of_mem _ (ih (hs ▸ List.mem_cons_of_mem _ h) hc)

theorem sep_notMem_of_mem_splitOn {sep : Char} {s piece : List Char} (h : piece ∈ splitOn sep s) :
    sep ∉ piece := by
  induction s generalizing piece with
  | nil => simp_all [splitOn]
  | cons c s ih =>
    rw [splitOn] at h
    by_cases hc : c = sep
    · rw [if_pos hc] at h
      rcases List.mem_cons.mp h with rfl | h
      · simp
      · exact ih h
    · rw [if_neg hc] at h
      obtain ⟨first, later, hs⟩ := List.exists_cons_of_ne_nil (splitOn_ne_nil sep s)
      rw [hs] at h ih
      rcases List.mem_cons.mp h with rfl | h
      · rw [List.mem_cons, not_or]
        exact ⟨fun heq => hc heq.symm, ih List.mem_cons_self⟩
      · exact ih (List.mem_cons_of_mem _ h)

theorem mem_joinWith {c : Char} {between : String} (hc : c ∉ between.toList) {ss : List String} :
    c ∈ (joinWith between ss).toList ↔ ∃ s ∈ ss, c ∈ s.toList := by
  induction ss with
  | nil => simp [joinWith]
  | cons s ss ih =>
    cases ss with
    | nil => simp [joinWith]
    | cons t ss =>
      rw [joinWith, String.toList_append, String.toList_append, List.mem_append, List.mem_append, ih]
      · simp [hc]
      · simp

/-- Pieces that do not hold the separator are found again. -/
theorem splitOn_joinWith {sep : Char} {between : String} (hsep : between.toList = [sep])
    {ss : List String} (hne : ss ≠ []) (h : ∀ s ∈ ss, sep ∉ s.toList) :
    splitOn sep (joinWith between ss).toList = ss.map String.toList := by
  induction ss with
  | nil => exact absurd rfl hne
  | cons s ss ih =>
    have hs : sep ∉ s.toList := h s List.mem_cons_self
    cases ss with
    | nil => exact splitOn_of_notMem hs
    | cons t ss =>
      have hrest := ih (List.cons_ne_nil t ss) fun x hx => h x (List.mem_cons_of_mem _ hx)
      have hjoin : (joinWith between (s :: t :: ss)).toList =
          s.toList ++ sep :: (joinWith between (t :: ss)).toList := by
        simp [joinWith, hsep]
      rw [hjoin, splitOn_append hs, hrest]
      rfl

end PatternLint.Text
