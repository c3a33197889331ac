import Mathlib.Data.List.TakeWhile
import PatternLint.Text.Blank

/-!
# Texts without their outer blanks

`strip` leaves a character of a text exactly if the text has one that is no blank.  Blanks around a text do
not count for it (`strip_surrounded`), and it takes away nothing else (`exists_surrounded_strip`).  What it
leaves neither starts nor ends with a blank.
-/

namespace PatternLint.Text

theorem strip_eq_nil_iff {s : List Char} : strip s = [] ↔ ∀ c ∈ s, Blank c := by
  unfold strip stripRight stripLeft
  rw [List.reverse_eq_nil_iff, List.dropWhile_eq_nil_iff]
  constructor
  · intro h
    rw [← List.dropWhile_eq_nil_iff]
    -- what is left starts with a character that is no blank, but all of it is blank
    cases hleft : s.dropWhile Blank with
    | nil => rfl
    | cons c rest =>
      have hblank : Blank c := h c (by simp [hleft])
      have hfirst := List.dropWhile_get_zero_not (p := Blank) s (by simp [hleft])
      simp [hleft, hblank] at hfirst
  · intro h c hc
    have hdrop : s.dropWhile Blank = [] := List.dropWhile_eq_nil_iff.mpr h
    simp [hdrop] at hc

theorem stripRight_append {s after : List Char} (h : ∀ c ∈ after, Blank c) :
    stripRight (s ++ after) = stripRight s := by
  unfold stripRight
  rw [List.reverse_append, List.dropWhile_append_of_pos]
  intro c hc
  exact h c (List.mem_reverse.mp hc)

/-- Blanks around a text do not count. -/
theorem strip_surrounded {before s after : List Char} (hbefore : ∀ c ∈ before, Blank c)
    (hafter : ∀ c ∈ after, Blank c) : strip (before ++ s ++ after) = strip s := by
  unfold strip stripLeft
  rw [List.append_assoc, List.dropWhile_append_of_pos hbefore, List.dropWhile_append]
  by_cases hs : s.dropWhile Blank = []
  · have hblank : after.dropWhile Blank = [] := List.dropWhile_eq_nil_iff.mpr hafter
    rw [hs, hblank]
    rfl
  · rw [if_neg (by simpa using hs), stripRight_append hafter]

/-- Only blanks are taken away. -/
theorem exists_surrounded_strip (s : List Char) :
    ∃ before after, (∀ c ∈ before, Blank c) ∧ (∀ c ∈ after, Blank c) ∧
      s = before ++ strip s ++ after := by
  refine ⟨s.takeWhile Blank, ((stripLeft s).reverse.takeWhile Blank).reverse,
    fun c hc => List.mem_takeWhile_imp hc,
    fun c hc => List.mem_takeWhile_imp (List.mem_reverse.mp hc), ?_⟩
  have hright : strip s ++ ((stripLeft s).reverse.takeWhile Blank).reverse = stripLeft s := by
    unfold strip stripRight
    rw [← List.reverse_append, List.takeWhile_append_dropWhile, List.reverse_reverse]
  rw [List.append_assoc, hright]
  exact List.takeWhile_append_dropWhile.symm

theorem strip_strip (s : List Char) : strip (strip s) = strip s := by
  obtain ⟨before, after, hbefore, hafter, hs⟩ := exists_surrounded_strip s
  have hstrip := strip_surrounded (s := strip s) hbefore hafter
  rw [← hs] at hstrip
  exact hstrip.symm

theorem not_blank_of_head?_dropWhile {s : List Char} {c : Char}
    (h : (s.dropWhile Blank).head? = some c) : Blank c = false := by
  have hfirst := List.head?_dropWhile_not Blank s
  rwa [h] at hfirst

theorem not_blank_of_head?_strip {s : List Char} {c : Char} (h : (strip s).head? = some c) :
    Blank c = false := by
  -- the right end is taken off a text that already starts with no blank
  obtain ⟨taken, htaken⟩ : strip s <+: stripLeft s := by
    rw [strip, stripRight, ← List.reverse_suffix, List.reverse_reverse]
    exact List.dropWhile_suffix _
  apply not_blank_of_head?_dropWhile (s := s)
  rw [← stripLeft, ← htaken, List.head?_append, h]
  rfl

theorem not_blank_of_getLast?_strip {s : List Char} {c : Char} (h : (strip s).getLast? = some c) :
    Blank c = false := by
  rw [strip, stripRight, List.getLast?_reverse] at h
  exact not_blank_of_head?_dropWhile h

end PatternLint.Text
