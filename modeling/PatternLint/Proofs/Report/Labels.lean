import PatternLint.Proofs.Layout.Unprotected
import PatternLint.Report.Text

/-!
# Texts behind a label

A styled label is shown without its style, and what stands behind it is shown as if it stood alone
(`parts_labelMarkup`).  On every console a protected text behind a label can be shown (`plain_escape`); a text that
is not protected shows as it is exactly if it would do so protected and there is no tag in it
(`plain_unprotected_iff`), and only a tag can keep it from being shown at all.
-/

namespace PatternLint.Report

open PatternLint.Layout PatternLint.Text

/-- A style and a label that show as they are: the style is a word of small letters, and there is nothing in the
label that could be read as markup. -/
structure IsLabel (style label : String) : Prop where
  isStyle : IsStyle style.toList
  unmarked : ∀ c ∈ label.toList, c ≠ '[' ∧ c ≠ '\\'
  uncoded : ':' ∉ label.toList.dropLast
  audible : ∀ c ∈ label.toList, isSilent c = false

theorem isTag_style {style : List Char} (h : IsStyle style) : IsTag style ∧ IsTag ('/' :: style) := by
  obtain ⟨hne, hletters⟩ := h
  have hclean : ∀ c ∈ style, c ≠ '[' ∧ c ≠ ']' := by
    intro c hc
    have hfirst := (hletters c hc).1
    constructor <;> rintro rfl <;> exact absurd hfirst (by decide)
  refine ⟨?_, '/', style, rfl, rfl, hclean⟩
  cases style with
  | nil => exact absurd rfl hne
  | cons c rest =>
    obtain ⟨hfirst, hlast⟩ := hletters c List.mem_cons_self
    refine ⟨c, rest, rfl, by simp [startsTag, hfirst, hlast], fun d hd => ?_⟩
    exact hclean d (List.mem_cons_of_mem c hd)

/-! ### Labels -/

section Label

variable {book : PictureBook}

theorem pieces_unmarked {text : List Char} (h : ∀ c ∈ text, c ≠ '[' ∧ c ≠ '\\') (behind : List Char) :
    pieces (text ++ behind) = text.map Piece.char ++ pieces behind := by
  induction text with
  | nil => rfl
  | cons c text ih =>
    obtain ⟨hbracket, hslash⟩ := h c List.mem_cons_self
    have hstarts : ¬ StartsTag (c :: (text ++ behind)) := by
      rw [startsTag_cons_iff]
      simp [hbracket, hslash]
    rw [List.cons_append, pieces_char hstarts, ih fun d hd => h d (List.mem_cons_of_mem c hd)]
    rfl

theorem partsFrom_chars (text : List Char) (ps : List Piece) (pos : Nat) (pending : List Char) :
    partsFrom pos pending (text.map Piece.char ++ ps) =
      partsFrom (pos + text.length) (text.reverse ++ pending) ps := by
  induction text generalizing pos pending with
  | nil => rfl
  | cons c text ih =>
    rw [List.map_cons, List.cons_append, partsFrom, ih, List.length_cons, List.reverse_cons,
      List.append_assoc, Nat.add_assoc, Nat.add_comm 1]
    rfl

theorem showPart_label {style label : String} (h : IsLabel style label) :
    showPart book label.toList = label.toList := by
  have hslash : Layout.unescape label.toList = label.toList := by
    rw [unescape_eq_self_iff]
    exact not_infix_of_notMem fun hmem => (h.unmarked _ hmem).1 rfl
  rw [showPart, hslash, draw_eq_self_iff]
  exact not_namesPicture h.uncoded

theorem showPart_blank (s : List Char) : showPart book (' ' :: s) = ' ' :: showPart book s := by
  have hstarts : ¬ StartsCode (' ' :: Layout.unescape s) := by
    rintro ⟨name, after, -, hs⟩
    exact absurd (List.cons.inj hs).1 (by decide)
  have hslash : Layout.unescape (' ' :: s) = ' ' :: Layout.unescape s := rfl
  rw [showPart, hslash, draw_char hstarts]
  rfl

theorem labelMarkup_eq (style label : String) (behind : List Char) :
    labelMarkup style label behind = tagText 0 style.toList ++
      (label.toList ++ (tagText 0 ('/' :: style.toList) ++ ([' '] ++ behind))) := by
  simp [labelMarkup, tagText, bracketed]

/-- **A label is shown without its style**: its tags open and close it again, and what stands behind them comes
with no style open. -/
theorem parts_labelMarkup {style label : String} (h : IsLabel style label) (behind : List Char) :
    ∃ closing pos, parts (labelMarkup style label behind) =
      [.shown [], .shown [], .tag style.toList 0, .shown label.toList, .shown [],
        .tag ('/' :: style.toList) closing] ++ partsFrom pos [' '] (pieces behind) := by
  obtain ⟨hopens, hcloses⟩ := isTag_style h.isStyle
  have hblank : ∀ c ∈ [' '], c ≠ '[' ∧ c ≠ '\\' := by decide
  -- opening tag, label, closing tag and the blank, one after the other
  rw [parts, labelMarkup_eq, pieces_tagText hopens, pieces_unmarked h.unmarked, pieces_tagText hcloses,
    pieces_unmarked hblank, partsFrom, partsFrom_chars, partsFrom, partsFrom_chars, List.append_nil,
    List.reverse_reverse]
  exact ⟨_, _, rfl⟩

theorem tagsOf_labelMarkup {style label : String} (h : IsLabel style label) (behind : List Char) :
    ∃ pos, (tagsOf (parts (labelMarkup style label behind))).map Prod.fst =
      style.toList :: ('/' :: style.toList) ::
        (tagsOf (partsFrom pos [' '] (pieces behind))).map Prod.fst := by
  obtain ⟨closing, pos, hparts⟩ := parts_labelMarkup h behind
  rw [hparts]
  exact ⟨pos, rfl⟩

theorem display_labelMarkup (book : PictureBook) {style label : String} (h : IsLabel style label)
    (behind : List Char) :
    ∃ pos, (parts (labelMarkup style label behind)).flatMap (Part.display book) =
      label.toList ++ (partsFrom pos [' '] (pieces behind)).flatMap (Part.display book) := by
  obtain ⟨closing, pos, hparts⟩ := parts_labelMarkup h behind
  have hlabel : Part.display book (.shown label.toList) = label.toList := showPart_label h
  have hempty : Part.display book (.shown []) = [] := rfl
  have htag (inside : List Char) (offset : Nat) : Part.display book (.tag inside offset) = [] := rfl
  refine ⟨pos, ?_⟩
  rw [hparts, List.flatMap_append]
  simp [hlabel, hempty, htag]

theorem visible_label {style label : String} (h : IsLabel style label) (s : List Char) :
    visible (label.toList ++ ' ' :: s) = label.toList ++ ' ' :: visible s := by
  have hlabel : visible label.toList = label.toList := (visible_eq_self_iff _).mpr h.audible
  rw [visible, List.filter_append, ← visible, hlabel, List.filter_cons_of_pos rfl, ← visible]

end Label

section Console

variable [Console] {style label : String}

/-! ### Protected texts -/

/-- A text whose tags are protected is shown behind a label, whatever is in it. -/
theorem plain_escapeTags (h : IsLabel style label) (s : List Char) :
    ∃ t, plain (labelMarkup style label (escapeTags s)) = .ok t ∧
      visible t = label.toList ++ ' ' :: seen Console.pictures s := by
  obtain ⟨first, more, hfirst⟩ := exists_stretches_eq_cons (pieces s)
  have hbehind (pos : Nat) : partsFrom pos [' '] (pieces (escapeTags s)) =
      ((' ' :: first) :: more).map Part.shown := by
    rw [pieces_escapeTags, partsFrom_guarded, hfirst]
    rfl
  obtain ⟨pos, htags⟩ := tagsOf_labelMarkup h (escapeTags s)
  obtain ⟨pos', hdisplay⟩ := display_labelMarkup Console.pictures h (escapeTags s)
  rw [hbehind, tagsOf_map_shown, List.map_nil] at htags
  rw [hbehind, flatMap_display_shown, List.flatMap_cons, showPart_blank, List.cons_append] at hdisplay
  refine ⟨_, plain_of_fault (Console.tags.closed h.isStyle htags), ?_⟩
  rw [hdisplay, visible_label h, seen, hfirst, List.flatMap_cons]

/-- **A protected text behind a label.**  It can always be shown, and it is seen as it is exactly if nothing in it
is left out or replaced and it does not end with a single backslash, which is seen twice. -/
theorem plain_escape (h : IsLabel style label) (s : List Char) :
    ∃ t, plain (labelMarkup style label (escape s)) = .ok t ∧
      (visible t = label.toList ++ ' ' :: s ↔ Unaltered Console.pictures s ∧ ¬ EndsOpen s) := by
  by_cases hopen : EndsOpen s
  · obtain ⟨t, ht, hseen⟩ := plain_escapeTags h (s ++ ['\\'])
    rw [← escape_of_endsOpen hopen] at ht
    refine ⟨t, ht, ?_⟩
    rw [hseen]
    simp [hopen, seen_concat_backslash_ne hopen]
  · obtain ⟨t, ht, hseen⟩ := plain_escapeTags h s
    rw [← escape_of_not_endsOpen hopen] at ht
    refine ⟨t, ht, ?_⟩
    rw [hseen]
    simp [hopen, seen_eq_self_iff]

/-! ### Texts that are not protected -/

/-- A tag in a text that is not protected makes what is shown shorter. -/
theorem length_plain_lt (h : IsLabel style label) {s t : List Char} (htag : HoldsTag s)
    (ht : plain (labelMarkup style label s) = .ok t) : t.length < label.toList.length + s.length + 1 := by
  obtain ⟨pos, hdisplay⟩ := display_labelMarkup Console.pictures h s
  have hlength := length_display_le Console.pictures (pieces s) pos [' ']
  have hpos := countP_isTag_pos htag
  rw [flatMap_text_pieces, List.length_singleton] at hlength
  rw [plain_eq_ok ht, hdisplay, List.length_append]
  omega

/-- Without tags in it a text is shown behind a label. -/
theorem plain_untagged (h : IsLabel style label) {s : List Char} (hnone : ¬ HoldsTag s) :
    ∃ t, plain (labelMarkup style label s) = .ok t ∧
      visible t = label.toList ++ ' ' :: seen Console.pictures s := by
  obtain ⟨t, ht, hseen⟩ := plain_escapeTags h s
  rw [escapeTags_eq_self hnone] at ht
  exact ⟨t, ht, hseen⟩

/-- **A text that is not protected, behind a label**, is seen as it is exactly if nothing in it is left out or
replaced and there is no tag in it. -/
theorem plain_unprotected_iff (h : IsLabel style label) (s : List Char) :
    (∃ t, plain (labelMarkup style label s) = .ok t ∧ visible t = label.toList ++ ' ' :: s) ↔
      Unaltered Console.pictures s ∧ ¬ HoldsTag s := by
  by_cases htag : HoldsTag s
  · refine ⟨?_, fun hno => absurd htag hno.2⟩
    rintro ⟨t, ht, hseen⟩
    have hlt := length_plain_lt h htag ht
    have hle : (visible t).length ≤ t.length := List.length_filter_le _ _
    rw [hseen, List.length_append, List.length_cons] at hle
    omega
  · obtain ⟨t, ht, hseen⟩ := plain_untagged h htag
    rw [ht, ← seen_eq_self_iff]
    constructor
    · rintro ⟨t', ht', hseen'⟩
      obtain rfl := Except.ok.inj ht'
      rw [hseen] at hseen'
      exact ⟨(List.cons.inj (List.append_cancel_left hseen')).2, htag⟩
    · rintro ⟨heq, -⟩
      exact ⟨t, rfl, by rw [hseen, heq]⟩

/-- A closing tag that is the first tag of a text has nothing to close. -/
theorem plain_closing (h : IsLabel style label) {before name : List Char} (hnone : ¬ HoldsTag before)
    (hlast : before.getLast? ≠ some '\\') (hname : IsTag ('/' :: name)) (after : List Char) :
    ∃ e, plain (labelMarkup style label (before ++ (bracketed ('/' :: name) ++ after))) = .error e := by
  obtain ⟨pos, htags⟩ := tagsOf_labelMarkup h (before ++ (bracketed ('/' :: name) ++ after))
  rw [pieces_append_bracketed hnone hlast hname, partsFrom_chars, partsFrom] at htags
  exact plain_of_ne_none (Console.tags.unopened h.isStyle htags)

end Console

end PatternLint.Report
