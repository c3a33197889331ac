import PatternLint.Layout.Emoji
import PatternLint.Layout.Style

/-!
# The standard console

The tags of the standard console: a tag opens the style that its name defines and is closed by a tag with the
same style in any spelling, or by one without a name.  What a handler is given, in a tag with an at sign, is
taken to be well-formed, and the style of a tag counts even where no text stands under it.
-/

namespace PatternLint.Layout

open PatternLint.Text

/-! ## Tags -/

/-- The name of a tag, in front of its equals sign. -/
def tagName (inside : List Char) : List Char := inside.takeWhile (· != '=')

/-- What a tag does to the styles that are open, the innermost first. -/
def applyTag (inside : List Char) (offset : Nat) (opened : List (List Char)) :
    Except MarkupError (List (List Char)) :=
  match tagName inside with
  | '/' :: closing =>
    if (strip closing).isEmpty then
      match opened with
      | [] => .error (.nothingToClose offset)
      | _ :: rest => .ok rest
    else
      match normalForm (strip closing) with
      | .error text => .error (.notNumber text)
      | .ok key =>
        match opened.findIdx? (· == key) with
        | some i => .ok (opened.eraseIdx i)
        | none => .error (.unmatched (String.ofList inside) offset)
  | name =>
    match normalForm name with
    | .error text => .error (.notNumber text)
    | .ok key => .ok (key :: opened)

/-- The first tag that cannot be applied. -/
def tagFault? (opened : List (List Char)) : List (List Char × Nat) → Option MarkupError
  | [] => none
  | (inside, offset) :: tags =>
    match applyTag inside offset opened with
    | .error e => some e
    | .ok opened => tagFault? opened tags

/-- What keeps a tag from giving its style to a text.  The style is the name of the tag, in its normal form, and
what stands behind the equals sign. -/
def styleFault? (inside : List Char) : Option MarkupError :=
  let name := tagName inside
  if name.head? = some '/' then none
  else
    match normalForm name with
    | .error text => some (.notNumber text)
    | .ok key =>
      let definition := if '=' ∈ inside then key ++ ' ' :: inside.drop (name.length + 1) else key
      match normalForm definition with
      | .error text => some (.notNumber text)
      | .ok _ => none

/-- Why a marked-up text cannot be shown on the standard console. -/
def markupFault? (ps : List Part) : Option MarkupError :=
  (tagFault? [] (tagsOf ps)).or ((tagsOf ps).findSome? fun t => styleFault? t.1)

/-! ## Styles of one word -/

section Style

variable {style : List Char} (hstyle : IsStyle style)

include hstyle

theorem IsStyle.blank {c : Char} (hc : c ∈ style) : Blank c = false := by
  have hfirst : 97 ≤ c.toNat := (hstyle.2 c hc).1
  have hlast : c.toNat ≤ 122 := (hstyle.2 c hc).2
  simp [Blank, isBlank]
  omega

theorem IsStyle.small {c : Char} (hc : c ∈ style) :
    c.toNat < 128 ∧ ¬ (65 ≤ c.toNat ∧ c.toNat ≤ 90) := by
  have hfirst : 97 ≤ c.toNat := (hstyle.2 c hc).1
  have hlast : c.toNat ≤ 122 := (hstyle.2 c hc).2
  omega

theorem IsStyle.ne {c d : Char} (hc : c ∈ style) (hd : d < 'a') : c ≠ d := by
  rintro rfl
  exact absurd (hstyle.2 c hc).1 (Char.not_le.mpr hd)

end Style

/-- The style of an attribute or of a color is written as the word itself. -/
theorem text_switch {entry : String × String} (h : entry ∈ attributeWords) :
    (Style.empty.switch entry.2 true).text = entry.2.toList := by
  revert entry
  decide +kernel

theorem text_color (name : List Char) : { Style.empty with color := some name }.text = name := by
  have hnone : attributeOrder.filterMap (fun _ => (none : Option (List Char))) = [] := rfl
  simp [Style.text, Style.words, Style.empty, List.intercalate, hnone]

theorem argument?_letters {front : String} (hfront : '(' ∈ front.toList) {s : List Char} (h : '(' ∉ s) :
    argument? front s = none := by
  have hstart : front.toList.isPrefixOf s = false := by
    rw [← Bool.not_eq_true, List.isPrefixOf_iff_prefix]
    exact fun hprefixed => h (hprefixed.subset hfront)
  simp [argument?, hstart]

theorem tagName_eq_self {s : List Char} (h : '=' ∉ s) : tagName s = s := by
  induction s with
  | nil => rfl
  | cons c s ih =>
    have hc : c ≠ '=' := fun heq => h (heq ▸ List.mem_cons_self)
    have hrest := ih fun hmem => h (List.mem_cons_of_mem c hmem)
    rw [tagName] at hrest ⊢
    simp [hc, hrest]

section Style

variable {style : List Char} (hstyle : IsStyle style)

include hstyle

theorem toLower_style : toLower style = style := toLower_eq_self fun _ hc => hstyle.small hc

/-- A word of small letters is the name of a color or of none; a color in another form has brackets. -/
theorem readColor_style : readColor style = .ok style ∨ readColor style = .error .unknown := by
  have hbracket : '(' ∉ style := fun hmem => hstyle.ne hmem (by decide) rfl
  simp only [readColor, toLower_style hstyle,
    argument?_letters (by decide : '(' ∈ "color(".toList) hbracket,
    argument?_letters (by decide : '(' ∈ "rgb(".toList) hbracket]
  split
  · exact Or.inl rfl
  · exact Or.inr rfl

/-- What a word of small letters stands for. -/
theorem normalForm_cases :
    normalForm style = .ok style ∨ normalForm style = .ok "none".toList ∨
      ∃ entry ∈ attributeWords, normalForm style = .ok entry.2.toList := by
  have hsolid : ∀ c ∈ style, Blank c = false := fun c hc => hstyle.blank hc
  have hlower := toLower_style hstyle
  have hstrip : strip style = style := strip_solid hsolid
  have hwords : blankWords style = [style] := blankWords_solid hsolid hstyle.1
  unfold normalForm Style.ofDefinition
  rw [hstrip]
  by_cases hnone : style = "none".toList
  · exact Or.inr (Or.inl (by rw [if_pos hnone]; rfl))
  rw [if_neg hnone, hwords, hlower]
  unfold Style.extend
  rw [hlower]
  by_cases hword : style = "on".toList ∨ style = "not".toList ∨ style = "link".toList
  · left
    rcases hword with rfl | rfl | rfl <;> rfl
  simp only [not_or] at hword
  dsimp only
  rw [if_neg hword.1, if_neg hword.2.1, if_neg hword.2.2]
  cases hattribute : attribute? style with
  | some name =>
    obtain ⟨entry, hfind, rfl⟩ := Option.map_eq_some_iff.mp hattribute
    have hentry := List.mem_of_find?_eq_some hfind
    refine Or.inr (Or.inr ⟨entry, hentry, ?_⟩)
    rw [← text_switch hentry]
    rfl
  | none =>
    left
    dsimp only
    rcases readColor_style hstyle with hread | hread
    · rw [hread]
      exact congrArg Except.ok (text_color style)
    · rw [hread]

/-- A word of small letters has a normal form, and its normal form too. -/
theorem normalForm_style : ∃ key key', normalForm style = .ok key ∧ normalForm key = .ok key' := by
  have hattributes : ∀ entry ∈ attributeWords, (normalForm entry.2.toList).isOk := by decide +kernel
  rcases normalForm_cases hstyle with h | h | ⟨entry, hentry, h⟩
  · exact ⟨_, _, h, h⟩
  · exact ⟨_, _, h, rfl⟩
  · cases hkey : normalForm entry.2.toList with
    | ok key => exact ⟨_, _, h, hkey⟩
    | error text => exact absurd (hattributes entry hentry) (by simp [hkey, Except.isOk, Except.toBool])

theorem tagName_style : tagName style = style ∧ tagName ('/' :: style) = '/' :: style := by
  have hletters : '=' ∉ style := fun hmem => hstyle.ne hmem (by decide) rfl
  exact ⟨tagName_eq_self hletters, tagName_eq_self (by simpa using hletters)⟩

/-- A style is opened by its name and closed again by it. -/
theorem applyTag_style {key : List Char} (hkey : normalForm style = .ok key) (offset : Nat)
    (opened : List (List Char)) :
    applyTag style offset opened = .ok (key :: opened) ∧
      ∀ offset', applyTag ('/' :: style) offset' (key :: opened) = .ok opened := by
  obtain ⟨hname, hclosing⟩ := tagName_style hstyle
  have hstrip : strip style = style := strip_solid fun c hc => hstyle.blank hc
  have hempty : style.isEmpty = false := by simpa using hstyle.1
  constructor
  · unfold applyTag
    rw [hname]
    split
    · exact absurd rfl (hstyle.ne List.mem_cons_self (by decide : '/' < 'a'))
    · rw [hkey]
  · intro offset'
    simp [applyTag, hclosing, hstrip, hempty, hkey, List.findIdx?_cons]

theorem styleFault?_style : styleFault? style = none ∧ styleFault? ('/' :: style) = none := by
  obtain ⟨hname, hclosing⟩ := tagName_style hstyle
  obtain ⟨key, key', hkey, hkey'⟩ := normalForm_style hstyle
  have hhead : style.head? ≠ some '/' := fun h => hstyle.ne (List.mem_of_mem_head? h) (by decide) rfl
  have hequals : '=' ∉ style := fun h => hstyle.ne h (by decide) rfl
  constructor
  · simp [styleFault?, hname, hhead, hkey, hequals, hkey']
  · simp [styleFault?, hclosing]

end Style

theorem applyTag_closing_nil (name : List Char) (offset : Nat) :
    ∃ e, applyTag ('/' :: name) offset [] = .error e := by
  have hname : tagName ('/' :: name) = '/' :: tagName name := rfl
  by_cases hempty : (strip (tagName name)).isEmpty
  · exact ⟨.nothingToClose offset, by simp [applyTag, hname, hempty]⟩
  · cases hkey : normalForm (strip (tagName name)) with
    | error text => exact ⟨.notNumber text, by simp [applyTag, hname, hempty, hkey]⟩
    | ok key =>
      exact ⟨.unmatched (String.ofList ('/' :: name)) offset, by simp [applyTag, hname, hempty, hkey]⟩

/-! ## The console -/

theorem exists_of_map_fst_eq_cons {tags : List (List Char × Nat)} {inside : List Char}
    {rest : List (List Char)} (h : tags.map Prod.fst = inside :: rest) :
    ∃ offset tags', tags = (inside, offset) :: tags' ∧ tags'.map Prod.fst = rest := by
  obtain ⟨⟨first, offset⟩, tags', rfl, hfirst, hrest⟩ := List.map_eq_cons_iff.mp h
  obtain rfl : first = inside := hfirst
  exact ⟨offset, tags', rfl, hrest⟩

/-- The tags of the standard console. -/
def standardTags : TagRules where
  fault? := markupFault?
  closed := by
    intro ps style hstyle htags
    obtain ⟨opening, tags, hopen, hmore⟩ := exists_of_map_fst_eq_cons htags
    obtain ⟨closing, tags, rfl, hnone⟩ := exists_of_map_fst_eq_cons hmore
    obtain rfl := List.map_eq_nil_iff.mp hnone
    obtain ⟨key, -, hkey, -⟩ := normalForm_style hstyle
    obtain ⟨hopens, hcloses⟩ := applyTag_style hstyle hkey opening []
    obtain ⟨hfault, hfault'⟩ := styleFault?_style hstyle
    simp [markupFault?, hopen, tagFault?, hopens, hcloses, hfault, hfault']
  unopened := by
    intro ps style name rest hstyle htags
    obtain ⟨opening, tags, hopen, hmore⟩ := exists_of_map_fst_eq_cons htags
    obtain ⟨closing, tags, rfl, hbehind⟩ := exists_of_map_fst_eq_cons hmore
    obtain ⟨offset, tags, rfl, -⟩ := exists_of_map_fst_eq_cons hbehind
    obtain ⟨key, -, hkey, -⟩ := normalForm_style hstyle
    obtain ⟨hopens, hcloses⟩ := applyTag_style hstyle hkey opening []
    obtain ⟨e, he⟩ := applyTag_closing_nil name offset
    simp [markupFault?, hopen, tagFault?, hopens, hcloses, he]

/-- The standard console. -/
instance Console.standard : Console where
  width := 80
  pictures := pictureBook
  tags := standardTags

/-- The variable that sets the width of a console. -/
def widthVariable : String := "COLUMNS"

/-- A console in an environment, which can set its width in decimal digits. -/
@[reducible]
def Console.inEnvironment [console : Console] (env : List (String × String)) : Console :=
  match (env.lookup widthVariable).bind fun s => decimal? s.toList with
  | some width => { console with width := width }
  | none => console

end PatternLint.Layout
