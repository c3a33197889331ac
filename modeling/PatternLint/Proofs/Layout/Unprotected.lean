import PatternLint.Proofs.Layout.Stretches

/-!
# Texts whose tags are not protected

A tag that is not protected is not shown, so what is shown of a text is shorter than the text by at least one
character for each of its tags (`length_display_le`).  A text without tags needs no protection
(`escapeTags_eq_self`), and the first tag of a text is a piece of it whatever stands behind
(`pieces_append_bracketed`).
-/

namespace PatternLint.Layout

open PatternLint.Text

/-! ### Texts with tags -/

/-- A text with a tag in it. -/
def HoldsTag (s : List Char) : Prop := ∃ inside, IsTag inside ∧ bracketed inside <:+: s

theorem HoldsTag.cons {rest : List Char} (h : HoldsTag rest) (c : Char) : HoldsTag (c :: rest) := by
  obtain ⟨inside, hinside, hwithin⟩ := h
  exact ⟨inside, hinside, hwithin.trans (List.suffix_cons c rest).isInfix⟩

theorem StartsTag.holdsTag {s : List Char} (h : StartsTag s) : HoldsTag s := by
  obtain ⟨n, inside, after, hinside, rfl⟩ := h
  exact ⟨inside, hinside, List.replicate n '\\', after, rfl⟩

def Piece.text : Piece → List Char
  | .char c => [c]
  | .tag n inside => tagText n inside

def Piece.isTag : Piece → Bool
  | .char _ => false
  | .tag _ _ => true

theorem flatMap_text_pieces (s : List Char) : (pieces s).flatMap Piece.text = s := by
  induction s using pieceInduction with
  | nil => rfl
  | tag n inside after hinside ih =>
    rw [pieces_tagText hinside, List.flatMap_cons, ih]
    rfl
  | char c rest hstarts ih =>
    rw [pieces_char hstarts, List.flatMap_cons, ih]
    rfl

/-- A text with a tag in it has a tag among its pieces. -/
theorem countP_isTag_pos {s : List Char} (h : HoldsTag s) : 0 < (pieces s).countP Piece.isTag := by
  obtain ⟨inside, hinside, hwithin⟩ := h
  induction s using pieceInduction with
  | nil => simp [bracketed] at hwithin
  | tag n name after hname _ =>
    rw [pieces_tagText hname]
    simp [Piece.isTag]
  | char c rest hstarts ih =>
    rw [pieces_char hstarts]
    rcases List.infix_cons_iff.mp hwithin with ⟨after, hfront⟩ | hlater
    · exact absurd ⟨0, inside, after, hinside, by simpa [tagText] using hfront.symm⟩ hstarts
    · simpa [Piece.isTag] using ih hlater

/-- A text without tags needs no protection. -/
theorem escapeTags_eq_self {s : List Char} (h : ¬ HoldsTag s) : escapeTags s = s := by
  induction s using pieceInduction with
  | nil => rfl
  | tag n inside after hinside _ =>
    have hstarts : StartsTag (tagText n inside ++ after) := ⟨n, inside, after, hinside, rfl⟩
    exact absurd hstarts.holdsTag h
  | char c rest hstarts ih => rw [escapeTags_char hstarts, ih fun hrest => h (hrest.cons c)]

/-- A bracket behind a text closes no tag of it. -/
theorem startsTag_of_append_bracket {before more : List Char} (hne : before ≠ [])
    (hlast : before.getLast? ≠ some '\\') (h : StartsTag (before ++ '[' :: more)) :
    StartsTag before := by
  induction before with
  | nil => exact absurd rfl hne
  | cons c rest ih =>
    rw [startsTag_cons_iff]
    rcases startsTag_cons_iff.mp h with ⟨rfl, hrest⟩ | ⟨rfl, inside, after, hinside, hsplit⟩
    · left
      cases rest with
      | nil => exact absurd rfl hlast
      | cons d rest => exact ⟨rfl, ih (List.cons_ne_nil d rest) hlast hrest⟩
    · right
      refine ⟨rfl, inside, ?_⟩
      rcases List.append_eq_append_iff.mp hsplit with ⟨x, hx, hmore⟩ | ⟨x, hx, hmore⟩
      · -- the bracket that was put in would be inside the tag
        cases x with
        | nil => exact absurd (List.cons.inj hmore).1 (by decide)
        | cons d x =>
          obtain ⟨rfl, -⟩ := List.cons.inj hmore
          exact absurd (by simp [hx]) hinside.notMem.1
      · cases x with
        | nil => exact absurd (List.cons.inj hmore).1 (by decide)
        | cons d x =>
          obtain ⟨rfl, -⟩ := List.cons.inj hmore
          exact ⟨x, hinside, hx⟩

/-- The pieces of a text up to its first tag. -/
theorem pieces_append_bracketed {before inside : List Char} (hnone : ¬ HoldsTag before)
    (hlast : before.getLast? ≠ some '\\') (hinside : IsTag inside) (after : List Char) :
    pieces (before ++ (bracketed inside ++ after)) =
      before.map Piece.char ++ .tag 0 inside :: pieces after := by
  induction before with
  | nil => exact pieces_tagText (n := 0) hinside after
  | cons c rest ih =>
    have hstarts : ¬ StartsTag (c :: (rest ++ (bracketed inside ++ after))) := by
      intro hstarts
      have hbefore := startsTag_of_append_bracket (List.cons_ne_nil c rest) hlast hstarts
      exact hnone hbefore.holdsTag
    have hrest : ¬ HoldsTag rest := fun hrest => hnone (hrest.cons c)
    have hlast' : rest.getLast? ≠ some '\\' := by
      cases rest with
      | nil => simp
      | cons d rest => exact hlast
    rw [List.cons_append, pieces_char hstarts, ih hrest hlast']
    rfl

/-! ### What is shown of them -/

section Plain

variable [Console] {s t : List Char}

theorem plain_of_fault (h : Console.tags.fault? (parts s) = none) :
    plain s = .ok ((parts s).flatMap (Part.display Console.pictures)) := by
  rw [plain, h]

theorem plain_of_ne_none (h : Console.tags.fault? (parts s) ≠ none) : ∃ e, plain s = .error e := by
  obtain ⟨e, he⟩ := Option.ne_none_iff_exists'.mp h
  exact ⟨e, by rw [plain, he]⟩

theorem plain_eq_ok (h : plain s = .ok t) : t = (parts s).flatMap (Part.display Console.pictures) := by
  rw [plain] at h
  split at h
  · cases h
  · exact (Except.ok.inj h).symm

end Plain

/-- **Every tag makes what is shown shorter than the text**, by at least one character. -/
theorem length_display_le (book : PictureBook) (ps : List Piece) (pos : Nat) (pending : List Char) :
    ((partsFrom pos pending ps).flatMap (Part.display book)).length + ps.countP Piece.isTag ≤
      pending.length + (ps.flatMap Piece.text).length := by
  have hshown (s : List Char) : (Part.display book (.shown s)).length ≤ s.length :=
    length_showPart_le s
  induction ps generalizing pos pending with
  | nil => simpa [partsFrom] using hshown pending.reverse
  | cons p ps ih =>
    cases p with
    | char c =>
      have hlength := ih (pos + 1) (c :: pending)
      simp [partsFrom, Piece.isTag, Piece.text] at hlength ⊢
      omega
    | tag n inside =>
      -- half of the backslashes are lost, and the brackets too if none of them is left over
      have hpending := hshown pending.reverse
      have hslashes := hshown (List.replicate (n / 2) '\\')
      have hbehind := ih (pos + n + inside.length + 2) []
      have hbody : (Part.display book
          (if n % 2 = 1 then .shown (bracketed inside) else .tag inside (pos + n))).length ≤
            if n % 2 = 1 then inside.length + 2 else 0 := by
        split_ifs
        · simpa [bracketed] using hshown (bracketed inside)
        · exact Nat.le_refl 0
      simp only [partsFrom, List.flatMap_cons, List.length_append, List.length_reverse,
        List.length_replicate, List.length_nil, Piece.text, length_tagText] at *
      rw [List.countP_cons_of_pos rfl]
      split_ifs at hbody ⊢ <;> omega

end PatternLint.Layout
