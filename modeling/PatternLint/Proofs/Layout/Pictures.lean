import PatternLint.Layout.Wrap
import PatternLint.Proofs.Layout.Markup

/-!
# What is lost where a text is shown

A stretch of a text without tags may still not be shown as it is.  A backslash in front of a bracket is
dropped, the code of a picture gives way to the picture, and silent characters are left out.  None of the
three steps makes a text longer, so a stretch is shown as it is exactly if each step finds nothing to change
(`visible_showPart_eq_self_iff`), and a list of stretches exactly if each of them is.
-/

namespace PatternLint.Layout

open PatternLint.Text

/-! ### Codes of pictures -/

/-- What can stand between the colons of a code. -/
def IsName (name : List Char) : Prop := ∀ c ∈ name, c ≠ ':' ∧ Blank c = false

/-- A text that starts with a code, of a picture or not. -/
def StartsCode (s : List Char) : Prop := ∃ name after, IsName name ∧ s = code name ++ after

theorem code?_eq_some_iff {s name : List Char} :
    code? s = some name ↔ IsName name ∧ ∃ after, s = code name ++ after := by
  have hrun {rest r : List Char} :=
    closedRun_iff (p := fun d => d != ':' && !Blank d) (d := ':') rfl (s := rest) (r := r)
  constructor
  · intro h
    unfold code? at h
    split at h
    · rename_i rest
      dsimp only at h
      split_ifs at h with hclose
      obtain rfl := Option.some.inj h
      obtain ⟨hname, after, hafter⟩ := hrun.mp ⟨rfl, hclose⟩
      refine ⟨fun c hc => by simpa using hname c hc, after, ?_⟩
      conv_lhs => rw [hafter]
      simp [code]
    · cases h
  · rintro ⟨hname, after, rfl⟩
    obtain ⟨htake, hclose⟩ := hrun.mpr ⟨fun d hd => by simpa using hname d hd, after, rfl⟩
    simp [code, code?, htake]

theorem code?_eq_none_iff {s : List Char} : code? s = none ↔ ¬ StartsCode s := by
  rw [← not_iff_not, not_not, ← Ne, Option.ne_none_iff_exists']
  constructor
  · rintro ⟨name, h⟩
    obtain ⟨hname, after, hs⟩ := code?_eq_some_iff.mp h
    exact ⟨name, after, hname, hs⟩
  · rintro ⟨name, after, hname, hs⟩
    exact ⟨name, code?_eq_some_iff.mpr ⟨hname, after, hs⟩⟩

@[simp] theorem length_code (name : List Char) : (code name).length = name.length + 2 := by
  simp [code]

/-- Induction along the codes of a text, from left to right. -/
@[elab_as_elim] theorem codeInduction {P : List Char → Prop} (nil : P [])
    (code : ∀ name after, IsName name → P after → P (code name ++ after))
    (char : ∀ c rest, ¬ StartsCode (c :: rest) → P rest → P (c :: rest)) (s : List Char) : P s := by
  induction hlength : s.length using Nat.strong_induction_on generalizing s with
  | _ length ih =>
    cases s with
    | nil => exact nil
    | cons c rest =>
      by_cases hstarts : StartsCode (c :: rest)
      · obtain ⟨name, after, hname, hs⟩ := hstarts
        rw [hs] at hlength ⊢
        rw [List.length_append, length_code] at hlength
        exact code name after hname (ih after.length (by omega) after rfl)
      · exact char c rest hstarts (ih rest.length (by simp [← hlength]) rest rfl)

/-! ### Drawing -/

section Drawing

variable {book : PictureBook}

/-- A text in which a picture is named: the codes are told apart from left to right, and one of them is in
the book. -/
inductive NamesPicture (book : PictureBook) : List Char → Prop
  | here {name picture after : List Char} : IsName name → book.picture? name = some picture →
      NamesPicture book (code name ++ after)
  | behind {name after : List Char} : IsName name → NamesPicture book after →
      NamesPicture book (code name ++ after)
  | later {c : Char} {rest : List Char} : ¬ StartsCode (c :: rest) → NamesPicture book rest →
      NamesPicture book (c :: rest)

theorem drawFrom_eq (skip : Nat) (s : List Char) :
    drawFrom book skip s = draw book (s.drop skip) := by
  induction s generalizing skip with
  | nil => simp [drawFrom, draw]
  | cons c s ih =>
    cases skip with
    | zero => rfl
    | succ skip =>
      rw [drawFrom, ih]
      rfl

theorem draw_code {name : List Char} (h : IsName name) (after : List Char) :
    draw book (code name ++ after) = (book.picture? name).getD (code name) ++ draw book after := by
  have hcode : code? (code name ++ after) = some name := code?_eq_some_iff.mpr ⟨h, after, rfl⟩
  have hlength := length_code name
  cases htext : code name with
  | nil => simp [htext] at hlength
  | cons c text =>
    rw [htext, List.cons_append] at hcode
    rw [htext, List.length_cons] at hlength
    rw [List.cons_append, draw, drawFrom, hcode]
    dsimp only
    rw [drawFrom_eq, List.drop_left' (by omega), ← htext]

theorem draw_char {c : Char} {rest : List Char} (h : ¬ StartsCode (c :: rest)) :
    draw book (c :: rest) = c :: draw book rest := by
  rw [draw, drawFrom, code?_eq_none_iff.mpr h]
  rfl

theorem length_getD_picture (book : PictureBook) (name : List Char) :
    ((book.picture? name).getD (code name)).length ≤ (code name).length := by
  cases hpicture : book.picture? name with
  | none => exact le_rfl
  | some picture => exact book.length_le hpicture

theorem length_draw_le (book : PictureBook) (s : List Char) : (draw book s).length ≤ s.length := by
  induction s using codeInduction with
  | nil => exact le_rfl
  | code name after hname ih =>
    rw [draw_code hname, List.length_append, List.length_append]
    exact Nat.add_le_add (length_getD_picture book name) ih
  | char c rest hstarts ih =>
    rw [draw_char hstarts]
    exact Nat.succ_le_succ ih

/-- A code in front of a text stays exactly if it is in no book and the text stays. -/
theorem draw_code_eq_iff {name after : List Char} (h : IsName name) :
    draw book (code name ++ after) = code name ++ after ↔
      book.picture? name = none ∧ draw book after = after := by
  rw [draw_code h]
  constructor
  · intro heq
    have hpicture := length_getD_picture book name
    have hafter := length_draw_le book after
    have hsum := congrArg List.length heq
    rw [List.length_append, List.length_append] at hsum
    obtain ⟨hcode, hrest⟩ := List.append_inj heq (by omega)
    refine ⟨?_, hrest⟩
    cases hfind : book.picture? name with
    | none => rfl
    | some picture =>
      rw [hfind, Option.getD_some] at hcode
      exact absurd hcode (book.ne_code hfind)
  · rintro ⟨hnone, hrest⟩
    rw [hnone, hrest]
    rfl

/-- **A text stays as it is exactly if no picture is named in it.** -/
theorem draw_eq_self_iff (s : List Char) : draw book s = s ↔ ¬ NamesPicture book s := by
  constructor
  · intro heq hnames
    induction hnames with
    | here hname hpicture =>
      obtain ⟨hnone, -⟩ := (draw_code_eq_iff hname).mp heq
      simp [hpicture] at hnone
    | behind hname _ ih => exact ih ((draw_code_eq_iff hname).mp heq).2
    | later hstarts _ ih =>
      rw [draw_char hstarts] at heq
      exact ih (List.cons.inj heq).2
  · intro hnames
    induction s using codeInduction with
    | nil => rfl
    | code name after hname ih =>
      refine (draw_code_eq_iff hname).mpr ⟨?_, ih fun h => hnames (.behind hname h)⟩
      cases hfind : book.picture? name with
      | none => rfl
      | some picture => exact absurd (.here hname hfind) hnames
    | char c rest hstarts ih =>
      rw [draw_char hstarts, ih fun h => hnames (.later hstarts h)]

/-- Without a second colon there is no code. -/
theorem not_namesPicture {s : List Char} (h : ':' ∉ s.dropLast) : ¬ NamesPicture book s := by
  intro hnames
  have hcode {name after : List Char} : ':' ∈ (code name ++ after).dropLast := by
    rw [code, List.cons_append, List.dropLast_cons_of_ne_nil (by simp)]
    exact List.mem_cons_self
  induction hnames with
  | here => exact h hcode
  | behind => exact h hcode
  | @later c rest _ hrest ih =>
    refine ih fun hmem => h ?_
    cases rest with
    | nil => simp at hmem
    | cons d rest => exact List.mem_cons_of_mem c hmem

end Drawing

/-! ### Backslashes in front of brackets -/

theorem length_unescape_le (s : List Char) : (unescape s).length ≤ s.length := by
  fun_induction unescape s with
  | case1 rest ih =>
    simp only [List.length_cons]
    omega
  | case2 c rest _ ih => exact Nat.succ_le_succ ih
  | case3 => exact le_rfl

theorem unescape_eq_self_iff (s : List Char) : unescape s = s ↔ ¬ ['\\', '['] <:+: s := by
  fun_induction unescape s with
  | case1 rest ih =>
    have hfound : ['\\', '['] <:+: '\\' :: '[' :: rest := ⟨[], rest, rfl⟩
    refine ⟨fun heq => ?_, fun hno => absurd hfound hno⟩
    have hlength := congrArg List.length heq
    have hle := length_unescape_le rest
    simp only [List.length_cons] at hlength
    omega
  | case2 c rest hfirst ih =>
    have hfront : ¬ ['\\', '['] <+: c :: rest := by
      rintro ⟨after, hafter⟩
      obtain ⟨rfl, rfl⟩ := List.cons.inj hafter
      exact hfirst after rfl rfl
    rw [List.infix_cons_iff, not_or, ← ih]
    simp [hfront]
  | case3 => simp

theorem unescape_of_length_le {s : List Char} (h : s.length ≤ (unescape s).length) :
    unescape s = s := by
  fun_induction unescape s with
  | case1 rest ih =>
    have hle := length_unescape_le rest
    simp only [List.length_cons] at h
    omega
  | case2 c rest _ ih => rw [ih (Nat.le_of_succ_le_succ h)]
  | case3 => rfl

/-! ### Shown stretches -/

section Stretches

variable {book : PictureBook}

theorem visible_eq_self_iff (s : List Char) : visible s = s ↔ ∀ c ∈ s, isSilent c = false := by
  rw [visible, List.filter_eq_self]
  simp

theorem length_showPart_le (s : List Char) : (showPart book s).length ≤ s.length :=
  (length_draw_le book _).trans (length_unescape_le s)

theorem length_visible_showPart_le (s : List Char) :
    (visible (showPart book s)).length ≤ s.length :=
  (List.length_filter_le _ _).trans (length_showPart_le s)

theorem visible_showPart_eq_self_iff (s : List Char) :
    visible (showPart book s) = s ↔
      (∀ c ∈ s, isSilent c = false) ∧ ¬ ['\\', '['] <:+: s ∧ ¬ NamesPicture book s := by
  rw [← visible_eq_self_iff, ← unescape_eq_self_iff, ← draw_eq_self_iff]
  constructor
  · intro heq
    -- no step makes a text longer, so none has made it shorter
    have hlength := congrArg List.length heq
    have hvisible := List.length_filter_le (fun c => !isSilent c) (showPart book s)
    have hdraw := length_draw_le book (unescape s)
    rw [visible] at hlength
    rw [showPart] at hlength hvisible
    have hunescape : unescape s = s := unescape_of_length_le (by omega)
    rw [hunescape] at hlength hvisible hdraw
    have hall : visible (draw book s) = draw book s :=
      List.filter_eq_self.mpr (List.length_filter_eq_length_iff.mp (by omega))
    rw [showPart, hunescape, hall] at heq
    exact ⟨by rw [← heq, hall], hunescape, heq⟩
  · rintro ⟨hvisible, hunescape, hdraw⟩
    rw [showPart, hunescape, hdraw, hvisible]

end Stretches

end PatternLint.Layout
