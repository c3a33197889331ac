import Mathlib.Data.List.TakeWhile
import Mathlib.Tactic
import PatternLint.Layout.Markup

/-!
# Pieces of a marked-up text, and protected texts

The scanner that finds tags is held to what a tag is (`bracket?_eq_some_iff`), and the pieces of a text to its
tags, from left to right (`pieces_tagText`, `pieces_char`); `pieceInduction` follows them.  A protected text has
the pieces of the text itself, with each tag behind an odd number of backslashes (`pieces_escapeTags`).
-/

namespace PatternLint.Layout

open PatternLint.Text

/-- The longest run at the front is closed by a character that does not belong to it. -/
theorem closedRun_iff {p : Char → Bool} {d : Char} (hd : p d = false) {s r : List Char} :
    (s.takeWhile p = r ∧ (s.drop r.length).head? = some d) ↔
      (∀ c ∈ r, p c = true) ∧ ∃ after, s = r ++ d :: after := by
  constructor
  · rintro ⟨rfl, hclose⟩
    obtain ⟨after, hafter⟩ := List.head?_eq_some_iff.mp hclose
    refine ⟨fun c hc => List.mem_takeWhile_imp hc, after, ?_⟩
    rw [← hafter]
    exact (List.prefix_iff_eq_append.mp (List.takeWhile_prefix p)).symm
  · rintro ⟨hrun, after, rfl⟩
    refine ⟨?_, by simp⟩
    rw [List.takeWhile_append_of_pos hrun, List.takeWhile_cons_of_neg (by simp [hd]), List.append_nil]

/-- Behind a text that ends otherwise, the last character of a text is in the rest of it. -/
theorem exists_of_concat_eq_append {front after s : List Char} {c d : Char}
    (hlast : front.getLast? = some c) (hne : c ≠ d) (h : s ++ [d] = front ++ after) :
    ∃ after', s = front ++ after' := by
  rcases List.eq_nil_or_concat' after with rfl | ⟨after', d', rfl⟩
  · rw [List.append_nil] at h
    rw [← h, List.getLast?_concat] at hlast
    exact absurd (Option.some.inj hlast).symm hne
  · rw [← List.append_assoc] at h
    exact ⟨after', (List.append_inj' h rfl).1⟩

/-! ### Tags -/

/-- What can stand between the brackets of a tag. -/
def IsTag (inside : List Char) : Prop :=
  ∃ c rest, inside = c :: rest ∧ startsTag c ∧ ∀ d ∈ rest, d ≠ '[' ∧ d ≠ ']'

/-- A tag with backslashes in front of it. -/
def tagText (n : Nat) (inside : List Char) : List Char := List.replicate n '\\' ++ bracketed inside

/-- A text that starts with a tag, or with backslashes and a tag behind them. -/
def StartsTag (s : List Char) : Prop :=
  ∃ n inside after, IsTag inside ∧ s = tagText n inside ++ after

theorem IsTag.notMem {inside : List Char} (h : IsTag inside) : '[' ∉ inside ∧ ']' ∉ inside := by
  obtain ⟨c, rest, rfl, hc, hrest⟩ := h
  have hfirst : c ≠ '[' ∧ c ≠ ']' := by
    constructor <;> rintro rfl <;> exact absurd hc (by decide)
  constructor
  · rw [List.mem_cons, not_or]
    exact ⟨hfirst.1.symm, fun hmem => (hrest _ hmem).1 rfl⟩
  · rw [List.mem_cons, not_or]
    exact ⟨hfirst.2.symm, fun hmem => (hrest _ hmem).2 rfl⟩

theorem tag?_eq_some_iff {s inside : List Char} :
    tag? s = some inside ↔ IsTag inside ∧ ∃ after, s = bracketed inside ++ after := by
  have hrun {rest r : List Char} :=
    closedRun_iff (p := fun d => d != '[' && d != ']') (d := ']') rfl (s := rest) (r := r)
  constructor
  · intro h
    unfold tag? at h
    split at h
    · rename_i c rest
      dsimp only at h
      split_ifs at h with hc hclose
      obtain rfl := Option.some.inj h
      obtain ⟨hinside, after, hafter⟩ := hrun.mp ⟨rfl, hclose⟩
      refine ⟨⟨c, _, rfl, hc, fun d hd => by simpa using hinside d hd⟩, after, ?_⟩
      conv_lhs => rw [hafter]
      simp [bracketed]
    · cases h
  · rintro ⟨⟨c, rest, rfl, hc, hrest⟩, after, rfl⟩
    obtain ⟨htake, hclose⟩ :=
      hrun.mpr ⟨fun d hd => by simpa using hrest d hd, after, rfl⟩
    simp [bracketed, tag?, hc, htake]

theorem bracket?_eq_some_iff {s inside : List Char} {n : Nat} :
    bracket? s = some (n, inside) ↔ IsTag inside ∧ ∃ after, s = tagText n inside ++ after := by
  constructor
  · intro h
    obtain ⟨inside', htag, heq⟩ := Option.map_eq_some_iff.mp h
    obtain ⟨rfl, rfl⟩ := Prod.mk.inj heq
    obtain ⟨hinside, after, hafter⟩ := tag?_eq_some_iff.mp htag
    refine ⟨hinside, after, ?_⟩
    have hrun : s.takeWhile (· == '\\') =
        List.replicate (s.takeWhile (· == '\\')).length '\\' :=
      List.eq_replicate_of_mem fun c hc => by simpa using List.mem_takeWhile_imp hc
    rw [tagText, ← hrun, List.append_assoc, ← hafter]
    exact (List.prefix_iff_eq_append.mp (List.takeWhile_prefix _)).symm
  · rintro ⟨hinside, after, rfl⟩
    have hrun : (tagText n inside ++ after).takeWhile (· == '\\') = List.replicate n '\\' := by
      rw [tagText, List.append_assoc, List.takeWhile_append_of_pos (by simp), bracketed,
        List.cons_append, List.takeWhile_cons_of_neg (by decide), List.append_nil]
    have htag : tag? (bracketed inside ++ after) = some inside :=
      tag?_eq_some_iff.mpr ⟨hinside, after, rfl⟩
    have hdrop : (tagText n inside ++ after).drop n = bracketed inside ++ after := by
      rw [tagText, List.append_assoc, List.drop_left' (by simp)]
    simp [bracket?, hrun, hdrop, htag]

theorem bracket?_eq_none_iff {s : List Char} : bracket? s = none ↔ ¬ StartsTag s := by
  rw [← not_iff_not, not_not, ← Ne, Option.ne_none_iff_exists']
  constructor
  · rintro ⟨⟨n, inside⟩, h⟩
    obtain ⟨hinside, after, hs⟩ := bracket?_eq_some_iff.mp h
    exact ⟨n, inside, after, hinside, hs⟩
  · rintro ⟨n, inside, after, hinside, hs⟩
    exact ⟨(n, inside), bracket?_eq_some_iff.mpr ⟨hinside, after, hs⟩⟩

/-- A tag starts with a bracket, or behind a backslash. -/
theorem startsTag_cons_iff {c : Char} {rest : List Char} :
    StartsTag (c :: rest) ↔ (c = '\\' ∧ StartsTag rest) ∨
      (c = '[' ∧ ∃ inside after, IsTag inside ∧ rest = inside ++ ']' :: after) := by
  constructor
  · rintro ⟨n, inside, after, hinside, hs⟩
    cases n with
    | zero =>
      obtain ⟨rfl, rfl⟩ := List.cons.inj hs
      exact Or.inr ⟨rfl, inside, after, hinside, by simp⟩
    | succ n =>
      obtain ⟨rfl, rfl⟩ := List.cons.inj hs
      exact Or.inl ⟨rfl, n, inside, after, hinside, rfl⟩
  · rintro (⟨rfl, n, inside, after, hinside, rfl⟩ | ⟨rfl, inside, after, hinside, rfl⟩)
    · exact ⟨n + 1, inside, after, hinside, rfl⟩
    · exact ⟨0, inside, after, hinside, by simp [tagText, bracketed]⟩

/-! ### Pieces -/

theorem piecesFrom_eq (skip : Nat) (s : List Char) : piecesFrom skip s = pieces (s.drop skip) := by
  induction s generalizing skip with
  | nil => simp [piecesFrom, pieces]
  | cons c s ih =>
    cases skip with
    | zero => rfl
    | succ skip =>
      rw [piecesFrom, ih]
      rfl

@[simp] theorem pieces_nil : pieces [] = [] := rfl

@[simp] theorem length_tagText (n : Nat) (inside : List Char) :
    (tagText n inside).length = n + inside.length + 2 := by
  simp [tagText, bracketed]
  omega

theorem pieces_tagText {n : Nat} {inside : List Char} (h : IsTag inside) (after : List Char) :
    pieces (tagText n inside ++ after) = .tag n inside :: pieces after := by
  have hbracket : bracket? (tagText n inside ++ after) = some (n, inside) :=
    bracket?_eq_some_iff.mpr ⟨h, after, rfl⟩
  have hlength := length_tagText n inside
  cases htext : tagText n inside with
  | nil => simp [htext] at hlength
  | cons c text =>
    rw [htext, List.cons_append] at hbracket
    rw [htext, List.length_cons] at hlength
    rw [List.cons_append, pieces, piecesFrom, hbracket]
    dsimp only
    rw [piecesFrom_eq, List.drop_left' (by omega)]

theorem pieces_char {c : Char} {rest : List Char} (h : ¬ StartsTag (c :: rest)) :
    pieces (c :: rest) = .char c :: pieces rest := by
  rw [pieces, piecesFrom, bracket?_eq_none_iff.mpr h]
  rfl

/-- Induction along the pieces of a text. -/
@[elab_as_elim] theorem pieceInduction {P : List Char → Prop} (nil : P [])
    (tag : ∀ n inside after, IsTag inside → P after → P (tagText n inside ++ after))
    (char : ∀ c rest, ¬ StartsTag (c :: rest) → P rest → P (c :: rest)) (s : List Char) : P s := by
  induction hlength : s.length using Nat.strong_induction_on generalizing s with
  | _ length ih =>
    cases s with
    | nil => exact nil
    | cons c rest =>
      by_cases hstarts : StartsTag (c :: rest)
      · obtain ⟨n, inside, after, hinside, hs⟩ := hstarts
        rw [hs] at hlength ⊢
        rw [List.length_append, length_tagText] at hlength
        exact tag n inside after hinside (ih after.length (by omega) after rfl)
      · exact char c rest hstarts (ih rest.length (by simp [← hlength]) rest rfl)

/-! ### Protected texts -/

section Protected

variable {n : Nat} {inside s : List Char} {c : Char} {rest : List Char}

theorem escapeTags_tagText (h : IsTag inside) (after : List Char) :
    escapeTags (tagText n inside ++ after) = tagText (2 * n + 1) inside ++ escapeTags after := by
  rw [escapeTags, pieces_tagText h, List.flatMap_cons]
  rfl

theorem escapeTags_char (h : ¬ StartsTag (c :: rest)) :
    escapeTags (c :: rest) = c :: escapeTags rest := by
  rw [escapeTags, pieces_char h, List.flatMap_cons]
  rfl

theorem mem_of_prefix_replicate {run after : List Char} (n : Nat)
    (h : run ++ [']'] <+: List.replicate n '\\' ++ '[' :: after) : '[' ∈ run := by
  induction n generalizing run with
  | zero =>
    cases run with
    | nil => simp at h
    | cons d run => simp [(List.cons_prefix_cons.mp h).1]
  | succ n ih =>
    cases run with
    | nil => simp [List.replicate_succ] at h
    | cons d run => exact List.mem_cons_of_mem d (ih (List.cons_prefix_cons.mp h).2)

/-- Up to its first tag a text is not changed. -/
theorem prefix_of_prefix_escapeTags {run : List Char} (hrun : '[' ∉ run)
    (h : run ++ [']'] <+: escapeTags s) : run ++ [']'] <+: s := by
  induction s using pieceInduction generalizing run with
  | nil => exact h
  | tag n inside after hinside _ =>
    rw [escapeTags_tagText hinside, tagText, List.append_assoc] at h
    exact absurd (mem_of_prefix_replicate _ h) hrun
  | char d rest hstarts ih =>
    rw [escapeTags_char hstarts] at h
    cases run with
    | nil =>
      obtain ⟨rfl, -⟩ := List.cons_prefix_cons.mp h
      exact ⟨rest, rfl⟩
    | cons e run =>
      obtain ⟨rfl, hrest⟩ := List.cons_prefix_cons.mp h
      have hno : '[' ∉ run := fun hmem => hrun (List.mem_cons_of_mem _ hmem)
      exact List.cons_prefix_cons.mpr ⟨rfl, ih hno hrest⟩

theorem startsTag_of_escapeTags (h : StartsTag (escapeTags s)) : StartsTag s := by
  induction s using pieceInduction with
  | nil => exact h
  | tag n inside after hinside _ => exact ⟨n, inside, after, hinside, rfl⟩
  | char c rest hstarts ih =>
    rw [escapeTags_char hstarts] at h
    rcases startsTag_cons_iff.mp h with ⟨rfl, hbehind⟩ | ⟨rfl, inside, after, hinside, hrest⟩
    · exact startsTag_cons_iff.mpr (Or.inl ⟨rfl, ih hbehind⟩)
    · have hfront : inside ++ [']'] <+: escapeTags rest := ⟨after, by simp [hrest]⟩
      obtain ⟨after', hafter⟩ := prefix_of_prefix_escapeTags hinside.notMem.1 hfront
      exact startsTag_cons_iff.mpr (Or.inr ⟨rfl, inside, after', hinside, by simp [← hafter]⟩)

/-- A piece with an odd number of backslashes in front of its tag. -/
def Piece.guarded : Piece → Piece
  | .char c => .char c
  | .tag n inside => .tag (2 * n + 1) inside

/-- **Protecting the tags of a text gives the same pieces**, each tag behind an odd number of backslashes. -/
theorem pieces_escapeTags (s : List Char) : pieces (escapeTags s) = (pieces s).map Piece.guarded := by
  induction s using pieceInduction with
  | nil => rfl
  | tag n inside after hinside ih =>
    rw [escapeTags_tagText hinside, pieces_tagText hinside, pieces_tagText hinside, ih]
    rfl
  | char c rest hstarts ih =>
    have hprotected : ¬ StartsTag (c :: escapeTags rest) := by
      rw [← escapeTags_char hstarts]
      exact mt startsTag_of_escapeTags hstarts
    rw [escapeTags_char hstarts, pieces_char hprotected, pieces_char hstarts, ih]
    rfl

theorem getLast?_tagText (n : Nat) (inside : List Char) : (tagText n inside).getLast? = some ']' := by
  rw [tagText, bracketed, ← List.cons_append, ← List.append_assoc, List.getLast?_concat]

theorem getLast?_escapeTags (s : List Char) : (escapeTags s).getLast? = s.getLast? := by
  induction s using pieceInduction with
  | nil => rfl
  | tag n inside after hinside ih =>
    rw [escapeTags_tagText hinside, List.getLast?_append, List.getLast?_append, ih,
      getLast?_tagText, getLast?_tagText]
  | char c rest hstarts ih =>
    rw [escapeTags_char hstarts, List.getLast?_cons, List.getLast?_cons, ih]

/-- A backslash behind a text belongs to no tag. -/
theorem startsTag_of_concat_backslash (h : StartsTag (s ++ ['\\'])) : StartsTag s := by
  obtain ⟨n, inside, after, hinside, hs⟩ := h
  obtain ⟨after', rfl⟩ := exists_of_concat_eq_append (getLast?_tagText n inside) (by decide) hs
  exact ⟨n, inside, after', hinside, rfl⟩

theorem pieces_concat_backslash (s : List Char) :
    pieces (s ++ ['\\']) = pieces s ++ [.char '\\'] := by
  induction s using pieceInduction with
  | nil => rfl
  | tag n inside after hinside ih =>
    rw [List.append_assoc, pieces_tagText hinside, pieces_tagText hinside, ih, List.cons_append]
  | char c rest hstarts ih =>
    have hlonger : ¬ StartsTag (c :: (rest ++ ['\\'])) :=
      mt (startsTag_of_concat_backslash (s := c :: rest)) hstarts
    rw [List.cons_append, pieces_char hlonger, pieces_char hstarts, ih, List.cons_append]

theorem escapeTags_concat_backslash (s : List Char) :
    escapeTags (s ++ ['\\']) = escapeTags s ++ ['\\'] := by
  rw [escapeTags, pieces_concat_backslash, List.flatMap_append]
  rfl

/-- A text that ends with one backslash, and not with two. -/
def EndsOpen (s : List Char) : Prop := ∃ t, s = t ++ ['\\'] ∧ t.getLast? ≠ some '\\'

theorem reverse_escapeTags_concat (t : List Char) :
    (escapeTags (t ++ ['\\'])).reverse = '\\' :: (escapeTags t).reverse := by
  rw [escapeTags_concat_backslash, List.reverse_concat]

theorem head?_reverse_escapeTags (t : List Char) :
    (escapeTags t).reverse.head? = t.getLast? := by
  rw [← List.getLast?_eq_head?_reverse, getLast?_escapeTags]

theorem escape_of_endsOpen (h : EndsOpen s) : escape s = escapeTags (s ++ ['\\']) := by
  obtain ⟨t, rfl, ht⟩ := h
  rw [escapeTags_concat_backslash (t ++ ['\\']), escape]
  split
  · rename_i front htwo
    rw [reverse_escapeTags_concat] at htwo
    refine absurd ?_ ht
    rw [← head?_reverse_escapeTags, (List.cons.inj htwo).2]
    rfl
  · rfl
  · rename_i hnone
    exact absurd (reverse_escapeTags_concat t) (hnone _)

theorem escape_of_not_endsOpen (h : ¬ EndsOpen s) : escape s = escapeTags s := by
  rw [escape]
  split
  · rfl
  · rename_i front hfront hone
    obtain ⟨t, rfl⟩ : ∃ t, s = t ++ ['\\'] := by
      rw [← List.getLast?_eq_some_iff, ← head?_reverse_escapeTags, hone]
      rfl
    refine absurd ⟨t, rfl, fun hlast => ?_⟩ h
    rw [reverse_escapeTags_concat] at hone
    rw [← head?_reverse_escapeTags, (List.cons.inj hone).2] at hlast
    obtain ⟨front', heq⟩ := List.head?_eq_some_iff.mp hlast
    exact hfront front' heq
  · rfl

end Protected

end PatternLint.Layout
