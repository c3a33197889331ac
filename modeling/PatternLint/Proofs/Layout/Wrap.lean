import Mathlib.Data.List.TakeWhile
import Mathlib.Tactic
import PatternLint.Layout.Wrap
import PatternLint.Proofs.Report.Printing

/-!
# The last word of a wrapped line

Wrapping breaks a line between words, and inside a word only if it is wider than the whole line.  So the
last piece of a line ends with the last word of the line, complete, if that word fits (`wrapLine_joined`).
The walk over the words carries the piece under way: where it starts, its characters, and the cells that
it takes.
-/

namespace PatternLint.Layout

open PatternLint.Text

@[simp] theorem cells_nil : cells [] = 0 := rfl

@[simp] theorem cells_append (s t : List Char) : cells (s ++ t) = cells s + cells t := by
  induction s with
  | nil => simp
  | cons c s ih =>
    simp only [List.cons_append, cells, List.foldr_cons] at ih ⊢
    omega

/-! ### Pieces of a wide word -/

theorem chopFrom_flatten (width : Nat) (s : List Char) : ∀ (used : Nat) (piece : List Char),
    (chopFrom width used piece s).flatten = piece.reverse ++ s := by
  induction s with
  | nil => simp [chopFrom]
  | cons c s ih =>
    intro used piece
    rw [chopFrom]
    split_ifs
    · rw [List.flatten_cons, ih]
      simp
    · rw [ih]
      simp

theorem chop_flatten (width : Nat) (s : List Char) : (chop width s).flatten = s := by
  rw [chop, chopFrom_flatten]
  rfl

theorem chopFrom_ne_nil (width used : Nat) (piece s : List Char) :
    chopFrom width used piece s ≠ [] := by
  induction s generalizing used piece with
  | nil => simp [chopFrom]
  | cons c s ih =>
    rw [chopFrom]
    split_ifs
    · simp
    · exact ih _ _

/-! ### Cutting -/

theorem cutAt_ne_nil (pos : Nat) (s : List Char) (breaks : List Nat) : cutAt pos s breaks ≠ [] := by
  cases breaks <;> simp [cutAt]

/-- Behind a cut at the end of `pending`, only what follows matters for the last piece. -/
theorem getLast?_cutAt_cons {pos start : Nat} {pending rest : List Char} (breaks : List Nat)
    (hstart : pos + pending.length = start) :
    (cutAt pos (pending ++ rest) (start :: breaks)).getLast? =
      (cutAt start rest breaks).getLast? := by
  have hdrop : (pending ++ rest).drop (start - pos) = rest := by
    rw [← hstart, Nat.add_sub_cancel_left, List.drop_left]
  rw [cutAt, hdrop, List.getLast?_cons_of_ne_nil (cutAt_ne_nil _ _ _)]

/-- A cut in front of everything is no cut; any other one ends the piece under way. -/
theorem getLast?_cutAt_start {pos start : Nat} {pending rest : List Char} (breaks : List Nat)
    (hstart : pos + pending.length = start) :
    (cutAt pos (pending ++ rest) ([start].filter (· ≠ 0) ++ breaks)).getLast? =
      (cutAt start rest breaks).getLast? := by
  by_cases hzero : start = 0
  · obtain ⟨rfl, hlength⟩ : pos = 0 ∧ pending.length = 0 := by omega
    obtain rfl := List.eq_nil_of_length_eq_zero hlength
    subst hzero
    rfl
  · rw [List.filter_cons_of_pos (by simpa using hzero), List.filter_nil, List.cons_append,
      List.nil_append]
    exact getLast?_cutAt_cons breaks hstart

/-- Cuts at the starts of pieces leave the last of these as the piece under way. -/
theorem getLast?_cutAt_startsFrom (tail : List Char) (breaks : List Nat) :
    ∀ (pieces : List (List Char)) (pos start : Nat) (pending : List Char), pieces ≠ [] →
      pos + pending.length = start →
      ∃ q, q + (pieces.getLastD []).length = start + pieces.flatten.length ∧
        (cutAt pos (pending ++ (pieces.flatten ++ tail))
            ((startsFrom start pieces).filter (· ≠ 0) ++ breaks)).getLast? =
          (cutAt q (pieces.getLastD [] ++ tail) breaks).getLast?
  | [], _, _, _, hne, _ => absurd rfl hne
  | [p], pos, start, pending, _, hstart => by
    refine ⟨start, by simp, ?_⟩
    rw [startsFrom, startsFrom, getLast?_cutAt_start breaks hstart]
    simp
  | p :: p' :: ps, pos, start, pending, _, hstart => by
    obtain ⟨q, hq, hlast⟩ := getLast?_cutAt_startsFrom tail breaks (p' :: ps) start
      (start + p.length) p (by simp) rfl
    have hsplit : (startsFrom start (p :: p' :: ps)).filter (· ≠ 0) ++ breaks =
        [start].filter (· ≠ 0) ++
          ((startsFrom (start + p.length) (p' :: ps)).filter (· ≠ 0) ++ breaks) := by
      rw [startsFrom, ← List.append_assoc, ← List.filter_append, List.singleton_append]
    have hget : (p :: p' :: ps).getLastD [] = (p' :: ps).getLastD [] := by simp
    refine ⟨q, ?_, ?_⟩
    · rw [hget, hq, List.flatten_cons (l := p), List.length_append]
      omega
    · rw [hsplit, List.flatten_cons, List.append_assoc, getLast?_cutAt_start _ hstart, hlast, hget]

/-! ### The walk over the words -/

theorem start_ne_zero {pos start used : Nat} {pending : List Char} (hused0 : used ≠ 0)
    (hused : cells pending = used) (hstart : pos + pending.length = start) : start ≠ 0 := by
  intro hzero
  have hpending : pending = [] := List.eq_nil_of_length_eq_zero (by omega)
  exact hused0 (by rw [← hused, hpending, cells_nil])

/-- Wherever the walk stands, a last word that fits stays complete, and the last piece fits. -/
theorem getLast?_cutAt_breaksFrom {width : Nat} {word : List Char} (hbare : stripRight word = word)
    (hfits : cells word ≤ width) :
    ∀ (ws : List (List Char)) (pos start used : Nat) (pending : List Char), cells pending = used →
      pos + pending.length = start →
      ∃ before,
        (cutAt pos (pending ++ (ws ++ [word]).flatten)
            (breaksFrom width .fold start used (ws ++ [word]))).getLast? = some (before ++ word) ∧
          cells (before ++ word) ≤ width
  | [], pos, start, used, pending, hused, hstart => by
    simp only [List.nil_append, breaksFrom, hbare, List.flatten_cons, List.flatten_nil,
      List.append_nil]
    by_cases hroom : cells word + used ≤ width
    · rw [if_pos hroom]
      refine ⟨pending, by simp [cutAt], ?_⟩
      rw [cells_append]
      omega
    · have hused0 : used ≠ 0 := by omega
      have hstart0 := start_ne_zero hused0 hused hstart
      rw [if_neg hroom, if_neg (by omega), if_neg hused0, if_neg hstart0]
      rw [getLast?_cutAt_cons [] hstart]
      exact ⟨[], by simp [cutAt], by simpa using hfits⟩
  | w :: ws, pos, start, used, pending, hused, hstart => by
    simp only [List.cons_append, breaksFrom, List.flatten_cons]
    by_cases hroom : cells (stripRight w) + used ≤ width
    · rw [if_pos hroom, ← List.append_assoc]
      refine getLast?_cutAt_breaksFrom hbare hfits ws pos _ _ (pending ++ w) ?_ ?_
      · rw [cells_append, hused]
      · rw [List.length_append]
        omega
    · rw [if_neg hroom]
      by_cases hwide : width < cells (stripRight w)
      · -- the word is folded; the last of its pieces is the piece under way
        rw [if_pos hwide]
        obtain ⟨q, hq, hlast⟩ := getLast?_cutAt_startsFrom (ws ++ [word]).flatten
          (breaksFrom width .fold (start + w.length) (cells ((chop width w).getLastD []))
            (ws ++ [word]))
          (chop width w) pos start pending (chopFrom_ne_nil width 0 [] w) hstart
        rw [chop_flatten] at hq hlast
        rw [hlast]
        exact getLast?_cutAt_breaksFrom hbare hfits ws q _ _ _ rfl hq
      · have hused0 : used ≠ 0 := by omega
        have hstart0 := start_ne_zero hused0 hused hstart
        rw [if_neg hwide, if_neg hused0, if_neg hstart0, List.singleton_append,
          getLast?_cutAt_cons _ hstart]
        exact getLast?_cutAt_breaksFrom hbare hfits ws start _ _ w rfl rfl

/-! ### The words of a line -/

/-- A word: not empty, and without blanks. -/
def IsWord (w : List Char) : Prop := w ≠ [] ∧ ∀ c ∈ w, Blank c = false

/-- Words with a blank behind each of them. -/
def spaced (ws : List (List Char)) : List (List Char) := ws.map (· ++ [' '])

theorem takeWhile_blank_word {w : List Char} (hw : IsWord w) (rest : List Char) :
    (w ++ rest).takeWhile Blank = [] ∧ (w ++ rest).dropWhile Blank = w ++ rest := by
  obtain ⟨hne, hbare⟩ := hw
  cases w with
  | nil => exact absurd rfl hne
  | cons c w =>
    have hc : Blank c = false := hbare c List.mem_cons_self
    simp [hc]

theorem nextWord?_last {w : List Char} (hw : IsWord w) : nextWord? w = some (w, []) := by
  obtain ⟨hlead, hrest⟩ := takeWhile_blank_word hw []
  rw [List.append_nil] at hlead hrest
  have hbody : w.takeWhile (fun c => !Blank c) = w :=
    List.takeWhile_eq_self_iff.mpr fun c hc => by simp [hw.2 c hc]
  have hbehind : w.dropWhile (fun c => !Blank c) = [] :=
    List.dropWhile_eq_nil_iff.mpr fun c hc => by simp [hw.2 c hc]
  have hne : w.isEmpty = false := by simpa using hw.1
  simp [nextWord?, hlead, hrest, hbody, hbehind, hne]

theorem nextWord?_spaced {w w' : List Char} (hw : IsWord w) (hw' : IsWord w') (rest : List Char) :
    nextWord? (w ++ ' ' :: (w' ++ rest)) = some (w ++ [' '], w' ++ rest) := by
  obtain ⟨hlead, hrest⟩ := takeWhile_blank_word hw (' ' :: (w' ++ rest))
  obtain ⟨hlead', hrest'⟩ := takeWhile_blank_word hw' rest
  have hblank : Blank ' ' = true := by decide
  have hword : ∀ c ∈ w, (!Blank c) = true := fun c hc => by simp [hw.2 c hc]
  have hbody : (w ++ ' ' :: (w' ++ rest)).takeWhile (fun c => !Blank c) = w := by
    rw [List.takeWhile_append_of_pos hword, List.takeWhile_cons_of_neg (by simp [hblank]),
      List.append_nil]
  have hbehind : (w ++ ' ' :: (w' ++ rest)).dropWhile (fun c => !Blank c) = ' ' :: (w' ++ rest) := by
    rw [List.dropWhile_append_of_pos hword, List.dropWhile_cons_of_neg (by simp [hblank])]
  have hne : w.isEmpty = false := by simpa using hw.1
  simp [nextWord?, hlead, hrest, hbody, hbehind, hne, hblank, hlead', hrest']

theorem wordsUpTo_spaced {w : List Char} (hw : IsWord w) :
    ∀ {ws : List (List Char)} {fuel : Nat}, (∀ x ∈ ws, IsWord x) → ws.length < fuel →
      wordsUpTo fuel ((spaced ws).flatten ++ w) = spaced ws ++ [w]
  | [], fuel + 1, _, _ => by
    have hnone : wordsUpTo fuel [] = [] := by cases fuel <;> simp [wordsUpTo, nextWord?]
    simp [spaced, wordsUpTo, nextWord?_last hw, hnone]
  | x :: ws, fuel + 1, hws, hfuel => by
    have hx : IsWord x := hws x List.mem_cons_self
    have hrest : ∀ y ∈ ws, IsWord y := fun y hy => hws y (List.mem_cons_of_mem _ hy)
    have ih := wordsUpTo_spaced hw hrest (Nat.lt_of_succ_lt_succ hfuel)
    -- what follows starts with a word: the next one, or the last
    obtain ⟨y, tail, hy, hnext⟩ :
        ∃ y tail, IsWord y ∧ (spaced ws).flatten ++ w = y ++ tail := by
      cases ws with
      | nil => exact ⟨w, [], hw, by simp [spaced]⟩
      | cons y ws =>
        exact ⟨y, ' ' :: ((spaced ws).flatten ++ w), hrest y List.mem_cons_self, by simp [spaced]⟩
    have hline : (spaced (x :: ws)).flatten ++ w = x ++ ' ' :: (y ++ tail) := by
      rw [← hnext]
      simp [spaced]
    rw [hline, wordsUpTo, nextWord?_spaced hx hy, ← hnext]
    simp only [ih]
    simp [spaced]

theorem words_spaced {ws : List (List Char)} {w : List Char} (hws : ∀ x ∈ ws, IsWord x)
    (hw : IsWord w) : words ((spaced ws).flatten ++ w) = spaced ws ++ [w] := by
  refine wordsUpTo_spaced hw hws ?_
  have hcount : ws.length ≤ (spaced ws).flatten.length := by
    induction ws with
    | nil => simp
    | cons x ws ih =>
      have hrest := ih fun y hy => hws y (List.mem_cons_of_mem _ hy)
      simp only [spaced, List.map_cons, List.flatten_cons, List.length_append, List.length_cons,
        List.length_nil] at hrest ⊢
      omega
  have hlast : 0 < w.length := List.length_pos_iff.mpr hw.1
  rw [List.length_append]
  omega

theorem tab_notMem_spaced {ws : List (List Char)} {w : List Char} (hws : ∀ x ∈ ws, IsWord x)
    (hw : IsWord w) : '\t' ∉ (spaced ws).flatten ++ w := by
  have hbare : ∀ x, IsWord x → '\t' ∉ x := fun x hx htab => by
    have hblank := hx.2 '\t' htab
    revert hblank
    decide
  intro hmem
  rcases List.mem_append.mp hmem with hmem | hmem
  · obtain ⟨y, hy, htab⟩ := List.mem_flatten.mp hmem
    obtain ⟨x, hx, rfl⟩ := List.mem_map.mp hy
    rcases List.mem_append.mp htab with htab | htab
    · exact hbare x (hws x hx) htab
    · simp at htab
  · exact hbare w hw hmem

theorem takeWhile_reverse_word {w : List Char} (hw : IsWord w) (before : List Char) :
    (before ++ w).reverse.takeWhile Blank = [] := by
  obtain ⟨hne, hbare⟩ := hw
  obtain ⟨s, c, rfl⟩ : ∃ s c, w = s ++ [c] := by
    exact ⟨w.dropLast, w.getLast hne, (List.dropLast_append_getLast hne).symm⟩
  have hc : Blank c = false := hbare c (by simp)
  simp [hc]

/-- **The last word of a wrapped line.**  If it fits the width, the last piece of the line ends with
it. -/
theorem getLast?_wrapLine {width : Nat} {ws : List (List Char)} {w : List Char}
    (hws : ∀ x ∈ ws, IsWord x) (hw : IsWord w) (hfits : cells w ≤ width) :
    ∃ before, (wrapLine width .fold ((spaced ws).flatten ++ w)).getLast? = some (before ++ w) := by
  have hline : expandTabs ((spaced ws).flatten ++ w) = (spaced ws).flatten ++ w :=
    expandTabsFrom_of_notMem (tab_notMem_spaced hws hw) 0
  obtain ⟨before, hlast, hroom⟩ :=
    getLast?_cutAt_breaksFrom (stripRight_solid hw.2) hfits (spaced ws) 0 0 0 [] rfl rfl
  have hflat : (spaced ws ++ [w]).flatten = (spaced ws).flatten ++ w := by simp
  rw [List.nil_append, hflat] at hlast
  have htrim : trimEnd width (before ++ w) = before ++ w := by
    rw [trimEnd, takeWhile_reverse_word hw]
    simp
  refine ⟨before, ?_⟩
  rw [wrapLine, hline, words_spaced hws hw, List.getLast?_map, hlast, Option.map_some, htrim,
    truncate, if_pos hroom]

end PatternLint.Layout
