import Mathlib.Data.List.Forall2
import Mathlib.Data.List.Infix
import PatternLint.Glob.Segments

/-!
# Glob segments split a path

`Splits ok globs path` says what a glob means: the path is cut into consecutive pieces, one for each
glob segment in order, `**` takes any piece and every other segment a piece of one segment that it
accepts.  `matchSegments` decides this relation for every test `ok` on single segments.

The table of answers does not enter into it.  `plainFrom` is the same recursion without a table, and
`Right` says that a table holds only answers of `plainFrom`: each step keeps it (`Right.remember`),
so a whole run does (`answers_matchFrom`).
-/

namespace PatternLint.Glob

variable {ok : List Char → List Char → Bool}

/-! ### Splittings -/

/-- The pieces of a path that one glob segment may take. -/
def Takes (ok : List Char → List Char → Bool) (glob : List Char) (piece : List (List Char)) : Prop :=
  glob = manySegments ∨ ∃ s, piece = [s] ∧ ok glob s = true

/-- The path consists of pieces that the glob segments take, in this order. -/
def Splits (ok : List Char → List Char → Bool) (globs path : List (List Char)) : Prop :=
  ∃ pieces : List (List (List Char)), pieces.flatten = path ∧ List.Forall₂ (Takes ok) globs pieces

theorem splits_nil {path : List (List Char)} : Splits ok [] path ↔ path = [] := by
  constructor
  · rintro ⟨pieces, rfl, h⟩
    cases h
    rfl
  · rintro rfl
    exact ⟨[], rfl, .nil⟩

theorem splits_cons {glob : List Char} {globs path : List (List Char)} :
    Splits ok (glob :: globs) path ↔
      ∃ piece rest, path = piece ++ rest ∧ Takes ok glob piece ∧ Splits ok globs rest := by
  constructor
  · rintro ⟨pieces, rfl, h⟩
    obtain ⟨piece, later, hp, hl, rfl⟩ := List.forall₂_cons_left_iff.mp h
    exact ⟨piece, later.flatten, rfl, hp, later, rfl, hl⟩
  · rintro ⟨piece, rest, rfl, hp, later, rfl, hl⟩
    exact ⟨piece :: later, rfl, .cons hp hl⟩

/-- `**` leaves any end of the path to the rest of the glob. -/
theorem splits_many {globs path : List (List Char)} :
    Splits ok (manySegments :: globs) path ↔ ∃ rest, rest <:+ path ∧ Splits ok globs rest := by
  rw [splits_cons]
  constructor
  · rintro ⟨piece, rest, rfl, -, h⟩
    exact ⟨rest, List.suffix_append piece rest, h⟩
  · rintro ⟨rest, ⟨piece, rfl⟩, h⟩
    exact ⟨piece, rest, rfl, Or.inl rfl, h⟩

theorem splits_one {glob : List Char} {globs path : List (List Char)} (hg : glob ≠ manySegments) :
    Splits ok (glob :: globs) path ↔
      ∃ s rest, path = s :: rest ∧ ok glob s = true ∧ Splits ok globs rest := by
  rw [splits_cons]
  constructor
  · rintro ⟨piece, rest, rfl, ht, h⟩
    rcases ht with rfl | ⟨s, rfl, hs⟩
    · exact absurd rfl hg
    · exact ⟨s, rest, rfl, hs, h⟩
  · rintro ⟨s, rest, rfl, hs, h⟩
    exact ⟨[s], rest, rfl, Or.inr ⟨s, rfl, hs⟩, h⟩

theorem splits_append {front back path : List (List Char)} :
    Splits ok (front ++ back) path ↔
      ∃ p q, path = p ++ q ∧ Splits ok front p ∧ Splits ok back q := by
  induction front generalizing path with
  | nil => simp [splits_nil]
  | cons glob front ih =>
    rw [List.cons_append, splits_cons]
    constructor
    · rintro ⟨piece, rest, rfl, ht, h⟩
      obtain ⟨p, q, rfl, hp, hq⟩ := ih.mp h
      exact ⟨piece ++ p, q, by simp, splits_cons.mpr ⟨piece, p, rfl, ht, hp⟩, hq⟩
    · rintro ⟨p, q, rfl, h, hq⟩
      obtain ⟨piece, rest, rfl, ht, hp⟩ := splits_cons.mp h
      exact ⟨piece, rest ++ q, by simp, ht, ih.mpr ⟨rest, q, rfl, hp, hq⟩⟩

/-- Two `**` in a row say no more than one. -/
theorem splits_many_many {back path : List (List Char)} :
    Splits ok (manySegments :: manySegments :: back) path ↔
      Splits ok (manySegments :: back) path := by
  constructor
  · intro h
    obtain ⟨rest, hr, h⟩ := splits_many.mp h
    obtain ⟨last, hl, h⟩ := splits_many.mp h
    exact splits_many.mpr ⟨last, hl.trans hr, h⟩
  · intro h
    exact splits_many.mpr ⟨path, List.suffix_refl path, h⟩

/-! ### The recursion without a table -/

/-- `**` in front of glob segments that `rest` decides. -/
def plainMany (rest : List (List Char) → Bool) : List (List Char) → Bool
  | [] => rest []
  | s :: path => rest (s :: path) || plainMany rest path

/-- Whether the glob segments match the path segments, with every question answered anew. -/
def plainFrom (ok : List Char → List Char → Bool) : List (List Char) → List (List Char) → Bool
  | [], path => path.isEmpty
  | glob :: globs, path =>
    if glob = manySegments then plainMany (plainFrom ok globs) path
    else
      match path with
      | [] => false
      | s :: path => ok glob s && plainFrom ok globs path

theorem plainFrom_many (globs path : List (List Char)) :
    plainFrom ok (manySegments :: globs) path = plainMany (plainFrom ok globs) path := by
  cases path <;> simp [plainFrom]

theorem plainMany_iff {rest : List (List Char) → Bool} {path : List (List Char)} :
    plainMany rest path = true ↔ ∃ p, p <:+ path ∧ rest p = true := by
  induction path with
  | nil => simp [plainMany]
  | cons s path ih =>
    rw [plainMany, Bool.or_eq_true, ih]
    constructor
    · rintro (h | ⟨p, hp, h⟩)
      · exact ⟨s :: path, List.suffix_refl _, h⟩
      · exact ⟨p, hp.trans (List.suffix_cons s path), h⟩
    · rintro ⟨p, hp, h⟩
      rcases List.suffix_cons_iff.mp hp with rfl | hp
      · exact Or.inl h
      · exact Or.inr ⟨p, hp, h⟩

theorem plainFrom_iff {globs path : List (List Char)} :
    plainFrom ok globs path = true ↔ Splits ok globs path := by
  induction globs generalizing path with
  | nil => rw [splits_nil, plainFrom, List.isEmpty_iff]
  | cons glob globs ih =>
    by_cases hg : glob = manySegments
    · subst hg
      rw [plainFrom_many, plainMany_iff, splits_many]
      simp only [ih]
    · rw [splits_one hg]
      cases path with
      | nil => simp [plainFrom, hg]
      | cons s path => simp [plainFrom, hg, ih]

/-! ### The table -/

/-- A table for ends of `globs` and `path` that holds answers of the plain recursion only. -/
def Right (ok : List Char → List Char → Bool) (globs path : List (List Char)) (seen : Memo) : Prop :=
  ∀ gs ps answer, gs <:+ globs → ps <:+ path →
    seen.lookup (gs.length, ps.length) = some answer → answer = plainFrom ok gs ps

theorem right_nil (globs path : List (List Char)) : Right ok globs path [] := by
  intro gs ps answer _ _ h
  simp at h

/-- Two ends of a list with the same length are the same. -/
theorem suffix_ext {α : Type} {l a b : List α} (ha : a <:+ l) (hb : b <:+ l)
    (h : a.length = b.length) : a = b := by
  rw [List.suffix_iff_eq_drop.mp ha, List.suffix_iff_eq_drop.mp hb, h]

theorem Right.cons {globs path gs ps : List (List Char)} {seen : Memo}
    (h : Right ok globs path seen) (hg : gs <:+ globs) (hp : ps <:+ path) :
    Right ok globs path (((gs.length, ps.length), plainFrom ok gs ps) :: seen) := by
  intro gs' ps' answer hg' hp' hl
  by_cases hk : (gs'.length, ps'.length) = (gs.length, ps.length)
  · obtain ⟨h1, h2⟩ := Prod.mk.inj hk
    rw [hk, List.lookup_cons_self, Option.some.injEq] at hl
    rw [suffix_ext hg' hg h1, suffix_ext hp' hp h2, hl]
  · have hb : ((gs'.length, ps'.length) == (gs.length, ps.length)) = false := by simpa using hk
    rw [List.lookup_cons, hb] at hl
    exact h gs' ps' answer hg' hp' hl

/-- `f` answers the glob segments `gs` for every end of the path and keeps the table right. -/
def Answers (ok : List Char → List Char → Bool) (globs path gs : List (List Char))
    (f : List (List Char) → Memo → Bool × Memo) : Prop :=
  ∀ ps seen, ps <:+ path → Right ok globs path seen →
    (f ps seen).1 = plainFrom ok gs ps ∧ Right ok globs path (f ps seen).2

/-- One step: what is looked up is right, and what is written down stays so. -/
theorem Right.remember {globs path gs ps : List (List Char)} {seen : Memo}
    {find : Memo → Bool × Memo} (h : Right ok globs path seen) (hg : gs <:+ globs)
    (hp : ps <:+ path)
    (hf : (find seen).1 = plainFrom ok gs ps ∧ Right ok globs path (find seen).2) :
    (remember (gs.length, ps.length) find seen).1 = plainFrom ok gs ps ∧
      Right ok globs path (remember (gs.length, ps.length) find seen).2 := by
  unfold Glob.remember
  cases hl : seen.lookup (gs.length, ps.length) with
  | some answer => exact ⟨h gs ps answer hg hp hl, h⟩
  | none =>
    dsimp only
    rw [hf.1]
    exact ⟨rfl, hf.2.cons hg hp⟩

theorem Answers.matchMany {globs path gs : List (List Char)}
    {rest : List (List Char) → Memo → Bool × Memo} (h : Answers ok globs path gs rest)
    (hg : manySegments :: gs <:+ globs) :
    Answers ok globs path (manySegments :: gs) (matchMany (gs.length + 1) rest) := by
  intro ps
  induction ps with
  | nil =>
    intro seen hp hs
    have hr := h [] seen hp hs
    exact hs.remember hg hp (by simpa [plainFrom_many, plainMany] using hr)
  | cons s ps ih =>
    intro seen hp hs
    refine hs.remember hg hp ?_
    have hr := h (s :: ps) seen hp hs
    have hlater := ih (rest (s :: ps) seen).2 ((List.suffix_cons s ps).trans hp) hr.2
    rw [plainFrom_many, plainMany, ← hr.1]
    cases hb : (rest (s :: ps) seen).1 with
    | true => simpa [hb] using hr.2
    | false => simpa [hb, plainFrom_many] using hlater

/-- A whole run answers as the plain recursion does, whatever right table it starts from. -/
theorem answers_matchFrom {globs path gs : List (List Char)} (hg : gs <:+ globs) :
    Answers ok globs path gs (matchFrom ok gs) := by
  induction gs with
  | nil =>
    intro ps seen hp hs
    rw [matchFrom]
    exact hs.remember hg hp ⟨rfl, hs⟩
  | cons glob gs ih =>
    have ih := ih ((List.suffix_cons glob gs).trans hg)
    by_cases hm : glob = manySegments
    · subst hm
      intro ps seen hp hs
      rw [matchFrom, if_pos rfl]
      exact ih.matchMany hg ps seen hp hs
    · intro ps seen hp hs
      rw [matchFrom, if_neg hm]
      refine hs.remember hg hp ?_
      cases ps with
      | nil => simpa [plainFrom, hm] using hs
      | cons s ps =>
        by_cases hk : ok glob s = true
        · simpa [plainFrom, hm, hk] using ih ps seen ((List.suffix_cons s ps).trans hp) hs
        · simpa [plainFrom, hm, hk] using hs

theorem matchSegments_eq_plainFrom (path globs : List (List Char)) :
    matchSegments ok path globs = plainFrom ok globs path :=
  (answers_matchFrom (List.suffix_refl globs) path [] (List.suffix_refl path)
    (right_nil globs path)).1

theorem matchSegments_iff {path globs : List (List Char)} :
    matchSegments ok path globs = true ↔ Splits ok globs path := by
  rw [matchSegments_eq_plainFrom, plainFrom_iff]

/-- **A glob matches exactly the paths that it splits.**  The table changes no answer, and of several
`**` in a row all but one can be left out. -/
theorem matchSegments_decides_splits (ok : List Char → List Char → Bool)
    (path globs : List (List Char)) :
    (matchSegments ok path globs = true ↔
      ∃ pieces : List (List (List Char)), pieces.flatten = path ∧
        List.Forall₂ (fun glob piece =>
          glob = manySegments ∨ ∃ s, piece = [s] ∧ ok glob s = true) globs pieces) ∧
    (∀ seen, Right ok globs path seen →
      (matchFrom ok globs path seen).1 = plainFrom ok globs path ∧
        Right ok globs path (matchFrom ok globs path seen).2) ∧
    matchSegments ok path globs = plainFrom ok globs path ∧
    ∀ front back, matchSegments ok path (front ++ manySegments :: manySegments :: back) =
      matchSegments ok path (front ++ manySegments :: back) := by
  refine ⟨matchSegments_iff, ?_, matchSegments_eq_plainFrom path globs, ?_⟩
  · intro seen hs
    exact answers_matchFrom (List.suffix_refl globs) path seen (List.suffix_refl path) hs
  · intro front back
    rw [Bool.eq_iff_iff, matchSegments_iff, matchSegments_iff, splits_append, splits_append]
    simp only [splits_many_many]

end PatternLint.Glob
