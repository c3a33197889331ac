import PatternLint.Proofs.Layout.Pictures

/-!
# What is seen of a protected text

A text whose tags are protected is shown in stretches: the tags, the backslashes in front of them, and what
stands between them (`stretches`).  It can be seen as it is exactly if each of the stretches can
(`seen_eq_self_iff`): if no silent character, no backslash in front of a bracket that opens no tag and no code of a
picture is in it.  A backslash behind it is one more backslash that is seen (`seen_concat_backslash`).
-/

namespace PatternLint.Layout

open PatternLint.Text

/-! ### Stretches -/

/-- The stretches of a text that are shown one by one where its tags are protected. -/
def stretches : List Piece → List (List Char)
  | [] => [[]]
  | .char c :: ps => (stretches ps).modifyHead (c :: ·)
  | .tag n inside :: ps => [] :: List.replicate n '\\' :: bracketed inside :: stretches ps

theorem stretches_ne_nil (ps : List Piece) : stretches ps ≠ [] := by
  induction ps with
  | nil => exact List.cons_ne_nil _ _
  | cons p ps ih =>
    cases p with
    | char c => simpa [stretches] using ih
    | tag n inside => exact List.cons_ne_nil _ _

theorem exists_stretches_eq_cons (ps : List Piece) : ∃ first more, stretches ps = first :: more :=
  List.exists_cons_of_ne_nil (stretches_ne_nil ps)

theorem flatten_stretches (s : List Char) : (stretches (pieces s)).flatten = s := by
  induction s using pieceInduction with
  | nil => rfl
  | tag n inside after hinside ih =>
    rw [pieces_tagText hinside]
    simp [stretches, tagText, ih]
  | char c rest hstarts ih =>
    obtain ⟨first, more, hfirst⟩ := exists_stretches_eq_cons (pieces rest)
    rw [pieces_char hstarts, stretches, hfirst, List.modifyHead_cons, List.flatten_cons,
      List.cons_append, ← List.flatten_cons, ← hfirst, ih]

/-- A protected text is shown in its stretches, the first of them behind what is pending. -/
theorem partsFrom_guarded (ps : List Piece) (pos : Nat) (pending : List Char) :
    partsFrom pos pending (ps.map Piece.guarded) =
      ((stretches ps).modifyHead (pending.reverse ++ ·)).map Part.shown := by
  induction ps generalizing pos pending with
  | nil => simp [partsFrom, stretches]
  | cons p ps ih =>
    cases p with
    | char c =>
      obtain ⟨first, more, hfirst⟩ := exists_stretches_eq_cons ps
      rw [List.map_cons, Piece.guarded, partsFrom, ih, stretches, hfirst]
      simp
    | tag n inside =>
      have hodd : (2 * n + 1) % 2 = 1 := by omega
      have hhalf : (2 * n + 1) / 2 = n := by omega
      obtain ⟨first, more, hfirst⟩ := exists_stretches_eq_cons ps
      rw [List.map_cons, Piece.guarded, partsFrom, ih, stretches, hfirst, hodd, hhalf]
      simp

theorem tagsOf_map_shown (l : List (List Char)) : tagsOf (l.map Part.shown) = [] := by
  rw [tagsOf, List.filterMap_map]
  exact List.filterMap_eq_nil_iff.mpr fun _ _ => rfl

theorem flatMap_display_shown (book : PictureBook) (l : List (List Char)) :
    (l.map Part.shown).flatMap (Part.display book) = l.flatMap (showPart book) := by
  rw [List.flatMap_map]
  rfl

/-! ### Backslashes that are dropped -/

/-- A text with a backslash in front of a bracket that opens no tag. -/
def DropsBackslash (s : List Char) : Prop :=
  ∃ before after, s = before ++ '\\' :: '[' :: after ∧ ¬ StartsTag ('[' :: after)

theorem not_infix_of_notMem {s : List Char} (h : '[' ∉ s) : ¬ ['\\', '['] <:+: s :=
  fun hwithin => h (hwithin.subset (by simp))

theorem not_infix_bracketed {inside : List Char} (h : IsTag inside) :
    ¬ ['\\', '['] <:+: bracketed inside := by
  rw [bracketed, List.infix_cons_iff, not_or]
  refine ⟨fun hfront => ?_, not_infix_of_notMem (by simp [h.notMem.1])⟩
  exact absurd (List.cons_prefix_cons.mp hfront).1 (by decide)

theorem dropsBackslash_tagText {n : Nat} {inside : List Char} (h : IsTag inside) (after : List Char) :
    DropsBackslash (tagText n inside ++ after) ↔ DropsBackslash after := by
  constructor
  · rintro ⟨before, rest, hs, hno⟩
    rcases List.append_eq_append_iff.mp hs with ⟨between, rfl, hafter⟩ | ⟨between, htag, hrest⟩
    · exact ⟨between, rest, hafter, hno⟩
    · match between, htag, hrest with
      | [], htag, hrest => exact ⟨[], rest, hrest.symm, hno⟩
      | [c], htag, hrest =>
        -- a tag does not end with a backslash
        obtain ⟨rfl, -⟩ := List.cons.inj hrest
        have hlast := getLast?_tagText n inside
        rw [htag, List.getLast?_concat] at hlast
        exact absurd (Option.some.inj hlast) (by decide)
      | c :: d :: between, htag, hrest =>
        -- the only bracket of a tag opens it
        obtain ⟨rfl, htail⟩ := List.cons.inj hrest
        obtain ⟨rfl, rfl⟩ := List.cons.inj htail
        have hsplit : List.replicate n '\\' ++ '[' :: (inside ++ [']']) =
            (before ++ ['\\']) ++ '[' :: between := by
          simpa [tagText, bracketed] using htag
        have hnone : '[' ∉ List.replicate n '\\' := by simp
        have hnone' : '[' ∉ inside ++ [']'] := by simp [h.notMem.1]
        obtain ⟨-, -, rfl⟩ := (List.append_cons_inj_of_notMem hnone hnone').mp hsplit
        exact absurd ⟨0, inside, after, h, by simp [tagText, bracketed]⟩ hno
  · rintro ⟨before, rest, rfl, hno⟩
    exact ⟨tagText n inside ++ before, rest, by simp, hno⟩

theorem dropsBackslash_cons {c : Char} {rest : List Char} :
    DropsBackslash (c :: rest) ↔
      (c = '\\' ∧ ∃ after, rest = '[' :: after ∧ ¬ StartsTag rest) ∨ DropsBackslash rest := by
  constructor
  · rintro ⟨before, after, hs, hno⟩
    cases before with
    | nil =>
      obtain ⟨rfl, rfl⟩ := List.cons.inj hs
      exact Or.inl ⟨rfl, after, rfl, hno⟩
    | cons d before =>
      obtain ⟨rfl, rfl⟩ := List.cons.inj hs
      exact Or.inr ⟨before, after, rfl, hno⟩
  · rintro (⟨rfl, after, rfl, hno⟩ | ⟨before, after, rfl, hno⟩)
    · exact ⟨[], after, rfl, hno⟩
    · exact ⟨c :: before, after, rfl, hno⟩

/-- The first stretch starts with a bracket exactly if the text does and opens no tag with it. -/
theorem head?_stretches {s first : List Char} {more : List (List Char)}
    (h : stretches (pieces s) = first :: more) :
    ['['] <+: first ↔ ∃ after, s = '[' :: after ∧ ¬ StartsTag s := by
  cases s with
  | nil =>
    obtain ⟨rfl, -⟩ := List.cons.inj h
    simp
  | cons c rest =>
    by_cases hstarts : StartsTag (c :: rest)
    · obtain ⟨n, inside, after, hinside, hs⟩ := id hstarts
      rw [hs, pieces_tagText hinside, stretches] at h
      obtain ⟨rfl, -⟩ := List.cons.inj h
      simp [hstarts]
    · obtain ⟨first', more', hfirst⟩ := exists_stretches_eq_cons (pieces rest)
      rw [pieces_char hstarts, stretches, hfirst, List.modifyHead_cons] at h
      obtain ⟨rfl, -⟩ := List.cons.inj h
      simp [hstarts, eq_comm]

theorem dropsBackslash_iff (s : List Char) :
    DropsBackslash s ↔ ∃ p ∈ stretches (pieces s), ['\\', '['] <:+: p := by
  induction s using pieceInduction with
  | nil => simp [DropsBackslash, stretches]
  | tag n inside after hinside ih =>
    have hempty : ¬ ['\\', '['] <:+: [] := by simp
    have hrun : ¬ ['\\', '['] <:+: List.replicate n '\\' := not_infix_of_notMem (by simp)
    rw [dropsBackslash_tagText hinside, ih, pieces_tagText hinside, stretches]
    simp only [List.exists_mem_cons_iff, hempty, hrun, not_infix_bracketed hinside, false_or]
  | char c rest hstarts ih =>
    obtain ⟨first, more, hfirst⟩ := exists_stretches_eq_cons (pieces rest)
    rw [dropsBackslash_cons, ih, pieces_char hstarts, stretches, hfirst, List.modifyHead_cons,
      ← head?_stretches hfirst]
    simp only [List.exists_mem_cons_iff, List.infix_cons_iff, List.cons_prefix_cons, or_assoc,
      eq_comm]

/-! ### Seen texts -/

section Seen

variable {book : PictureBook}

/-- What can be seen of a text whose tags are protected. -/
def seen (book : PictureBook) (s : List Char) : List Char :=
  visible ((stretches (pieces s)).flatMap (showPart book))

/-- A text in which nothing is left out or replaced where it is shown. -/
structure Unaltered (book : PictureBook) (s : List Char) : Prop where
  audible : ∀ c ∈ s, isSilent c = false
  brackets : ¬ DropsBackslash s
  pictures : ∀ p ∈ stretches (pieces s), ¬ NamesPicture book p

/-- If no text gets longer, then a list of texts can only stay as it is text by text. -/
theorem flatMap_eq_flatten_iff {f : List Char → List Char} (hle : ∀ s, (f s).length ≤ s.length)
    (l : List (List Char)) : l.flatMap f = l.flatten ↔ ∀ s ∈ l, f s = s := by
  have hsum (l : List (List Char)) : (l.flatMap f).length ≤ l.flatten.length := by
    induction l with
    | nil => exact le_rfl
    | cons s l ih => simpa using Nat.add_le_add (hle s) ih
  induction l with
  | nil => simp
  | cons s l ih =>
    rw [List.flatMap_cons, List.flatten_cons, List.forall_mem_cons]
    constructor
    · intro heq
      have hlength := congrArg List.length heq
      rw [List.length_append, List.length_append] at hlength
      have hs := hle s
      have hl := hsum l
      obtain ⟨hfirst, hmore⟩ := List.append_inj heq (by omega)
      exact ⟨hfirst, ih.mp hmore⟩
    · rintro ⟨hfirst, hmore⟩
      rw [hfirst, ih.mpr hmore]

/-- **A protected text is seen as it is exactly if nothing in it is left out or replaced.** -/
theorem seen_eq_self_iff (s : List Char) : seen book s = s ↔ Unaltered book s := by
  have hsplit : seen book s =
      (stretches (pieces s)).flatMap fun p => visible (showPart book p) := by
    rw [seen, visible, List.filter_flatMap]
    rfl
  have hstretches : seen book s = s ↔
      ∀ p ∈ stretches (pieces s), visible (showPart book p) = p := by
    rw [← flatMap_eq_flatten_iff length_visible_showPart_le, ← hsplit, flatten_stretches]
  have hsilent : (∀ c ∈ s, isSilent c = false) ↔
      ∀ p ∈ stretches (pieces s), ∀ c ∈ p, isSilent c = false := by
    conv_lhs => rw [← flatten_stretches s]
    simp only [List.mem_flatten]
    grind
  rw [hstretches]
  simp only [visible_showPart_eq_self_iff]
  constructor
  · intro h
    refine ⟨hsilent.mpr fun p hp => (h p hp).1, ?_, fun p hp => (h p hp).2.2⟩
    rw [dropsBackslash_iff]
    rintro ⟨p, hp, hdrop⟩
    exact (h p hp).2.1 hdrop
  · rintro ⟨haudible, hbrackets, hpictures⟩ p hp
    rw [dropsBackslash_iff] at hbrackets
    exact ⟨hsilent.mp haudible p hp, fun hdrop => hbrackets ⟨p, hp, hdrop⟩, hpictures p hp⟩

/-! ### A backslash at the end -/

theorem stretches_concat_char (c : Char) (ps : List Piece) :
    ∃ front last, stretches ps = front ++ [last] ∧
      stretches (ps ++ [.char c]) = front ++ [last ++ [c]] := by
  induction ps with
  | nil => exact ⟨[], [], rfl, rfl⟩
  | cons p ps ih =>
    obtain ⟨front, last, hps, hconcat⟩ := ih
    cases p with
    | char d =>
      cases front with
      | nil => exact ⟨[], d :: last, by simp [stretches, hps], by simp [stretches, hconcat]⟩
      | cons first front =>
        exact ⟨(d :: first) :: front, last, by simp [stretches, hps], by simp [stretches, hconcat]⟩
    | tag n inside =>
      exact ⟨[] :: List.replicate n '\\' :: bracketed inside :: front, last, by simp [stretches, hps],
        by simp [stretches, hconcat]⟩

theorem unescape_concat_backslash (s : List Char) :
    unescape (s ++ ['\\']) = unescape s ++ ['\\'] := by
  fun_induction unescape s with
  | case1 rest ih => simp [unescape, ih]
  | case2 c rest hfirst ih =>
    have hlonger : ∀ after, c = '\\' → rest ++ ['\\'] = '[' :: after → False := by
      intro after hc hrest
      cases rest with
      | nil => exact absurd (List.cons.inj hrest).1 (by decide)
      | cons d rest => exact hfirst rest hc (by rw [(List.cons.inj hrest).1])
    rw [List.cons_append, unescape, ih, List.cons_append]
    exact hlonger
  | case3 => rfl

theorem draw_concat_backslash (s : List Char) : draw book (s ++ ['\\']) = draw book s ++ ['\\'] := by
  induction s using codeInduction with
  | nil => rfl
  | code name after hname ih =>
    rw [List.append_assoc, draw_code hname, draw_code hname, ih, List.append_assoc]
  | char c rest hstarts ih =>
    have hlonger : ¬ StartsCode (c :: (rest ++ ['\\'])) := by
      rintro ⟨name, after, hname, hs⟩
      have hlast : (code name).getLast? = some ':' := by rw [code, ← List.cons_append, List.getLast?_concat]
      rw [← List.cons_append] at hs
      obtain ⟨after', hrest⟩ := exists_of_concat_eq_append hlast (by decide) hs
      exact hstarts ⟨name, after', hname, hrest⟩
    rw [List.cons_append, draw_char hlonger, draw_char hstarts, ih, List.cons_append]

theorem seen_concat_backslash (s : List Char) : seen book (s ++ ['\\']) = seen book s ++ ['\\'] := by
  obtain ⟨front, last, hpieces, hconcat⟩ := stretches_concat_char '\\' (pieces s)
  have hlast : showPart book (last ++ ['\\']) = showPart book last ++ ['\\'] := by
    rw [showPart, unescape_concat_backslash, draw_concat_backslash]
    rfl
  rw [seen, seen, pieces_concat_backslash, hconcat, hpieces]
  simp [hlast, visible, isSilent]

/-- A doubled backslash at the end is seen. -/
theorem seen_concat_backslash_ne {s : List Char} (h : EndsOpen s) :
    seen book (s ++ ['\\']) ≠ s := by
  obtain ⟨t, rfl, ht⟩ := h
  intro heq
  rw [seen_concat_backslash, seen_concat_backslash] at heq
  have hfront := List.append_cancel_right heq
  rw [← hfront, List.getLast?_concat] at ht
  exact ht rfl

end Seen

end PatternLint.Layout
