import PatternLint.Proofs.Yaml.Lexing
import PatternLint.Yaml.Number

/-!
# JSON texts that YAML reads as JSON does

YAML is nearly a superset of JSON.  A JSON text is portable if, tabs apart, none of the differences shows in
it: every name has its colon on the same line and within reach, strings hold only characters that YAML
permits and none that ends a line there, whole numbers are not too long, and any other number has a
fraction and a sign in its exponent.  It is tabbed if a tab stands between two of its tokens.

`spellingTokens` lists the tokens of a value, rule by rule of the grammar.  The lexer finds exactly these
in a portable text that is not tabbed, and stops with a fault in one that is (`tokens_textWith`).
-/

namespace PatternLint.Json

open PatternLint.Yaml (isPermitted isBreak isSpace Lexer digitLimit)

/-! ### Portable texts -/

def isPortableString (s : List Piece) : Bool :=
  (s.flatMap Piece.text).all fun x => isPermitted x && !isBreak x

/-- A name and the gap between it and its colon. -/
def isPortableName (name : List Piece) (gap : Blanks) : Bool :=
  isPortableString name && gap.chars.all isSpace &&
    decide ((stringText name).length + gap.chars.length ≤ Lexer.keyReach)

def Number.isPortable (n : Number) : Bool :=
  if n.isWhole then decide ((Nat.toDigits 10 n.whole).length ≤ digitLimit)
  else n.fraction.isSome && n.exponent.all (·.sign.isSome)

mutual

def Spelling.isPortable : Spelling → Bool
  | .null => true
  | .bool _ => true
  | .number n => n.isPortable
  | .str s => isPortableString s
  | .emptyList _ => true
  | .list items => items.isPortable
  | .emptyObject _ => true
  | .object fields => fields.isPortable

def Item.isPortable : Item → Bool
  | .mk _ v _ => v.isPortable

def Items.isPortable : Items → Bool
  | .one i => i.isPortable
  | .more i rest => i.isPortable && rest.isPortable

def Field.isPortable : Field → Bool
  | .mk _ name gap _ v _ => isPortableName name gap && v.isPortable

def Fields.isPortable : Fields → Bool
  | .one m => m.isPortable
  | .more m rest => m.isPortable && rest.isPortable

end

def Source.isPortable (t : Source) : Bool := t.root.isPortable

/-! ### Tabs between tokens -/

def Blanks.isTabbed (b : Blanks) : Bool := b.chars.contains '\t'

mutual

def Spelling.isTabbed : Spelling → Bool
  | .null => false
  | .bool _ => false
  | .number _ => false
  | .str _ => false
  | .emptyList gap => gap.isTabbed
  | .list items => items.isTabbed
  | .emptyObject gap => gap.isTabbed
  | .object fields => fields.isTabbed

def Item.isTabbed : Item → Bool
  | .mk before v after => before.isTabbed || (v.isTabbed || after.isTabbed)

def Items.isTabbed : Items → Bool
  | .one i => i.isTabbed
  | .more i rest => i.isTabbed || rest.isTabbed

def Field.isTabbed : Field → Bool
  | .mk before _ gap inner v after =>
    before.isTabbed || (gap.isTabbed || (inner.isTabbed || (v.isTabbed || after.isTabbed)))

def Fields.isTabbed : Fields → Bool
  | .one m => m.isTabbed
  | .more m rest => m.isTabbed || rest.isTabbed

end

def Source.isTabbed (t : Source) : Bool :=
  t.before.isTabbed || (t.root.isTabbed || t.after.isTabbed)

end PatternLint.Json

namespace PatternLint.Yaml

open PatternLint.Text

/-! ### Blanks and characters -/

theorem mem_unifyLineEnds {s : List Char} {x : Char} (h : x ∈ unifyLineEnds s) :
    x = '\n' ∨ x ∈ s ∧ x ≠ '\r' := by
  fun_induction unifyLineEnds s with
  | case1 => cases h
  | case2 s ih =>
    rcases List.mem_cons.mp h with rfl | h
    · exact Or.inl rfl
    · rcases ih h with rfl | ⟨hmem, hne⟩
      · exact Or.inl rfl
      · exact Or.inr ⟨List.mem_cons_of_mem _ (List.mem_cons_of_mem _ hmem), hne⟩
  | case3 s hs ih =>
    rcases List.mem_cons.mp h with rfl | h
    · exact Or.inl rfl
    · rcases ih h with rfl | ⟨hmem, hne⟩
      · exact Or.inl rfl
      · exact Or.inr ⟨List.mem_cons_of_mem _ hmem, hne⟩
  | case4 c s hpair hreturn ih =>
    rcases List.mem_cons.mp h with rfl | h
    · exact Or.inr ⟨List.mem_cons_self, hreturn⟩
    · rcases ih h with rfl | ⟨hmem, hne⟩
      · exact Or.inl rfl
      · exact Or.inr ⟨List.mem_cons_of_mem _ hmem, hne⟩

/-- Once the line ends are written alike, blanks are spaces, line feeds and tabs. -/
theorem isGap_or_tab (b : Json.Blanks) : ∀ x ∈ unifyLineEnds b.chars, isGap x ∨ x = '\t' := by
  intro x hx
  rcases mem_unifyLineEnds hx with rfl | ⟨hmem, hreturn⟩
  · exact Or.inl rfl
  · have hblank := b.blank x hmem
    simp only [Json.isBlank, Bool.or_eq_true, decide_eq_true_eq] at hblank
    rcases hblank with ((rfl | rfl) | rfl) | rfl
    · exact Or.inl rfl
    · exact Or.inr rfl
    · exact Or.inl rfl
    · exact absurd rfl hreturn

theorem tab_mem_unifyLineEnds {s : List Char} : '\t' ∈ unifyLineEnds s ↔ '\t' ∈ s := by
  fun_induction unifyLineEnds s with
  | case1 => simp
  | case2 s ih => simp [ih]
  | case3 s hs ih => simp [ih]
  | case4 c s hpair hreturn ih => simp [ih]

/-- Blanks are gaps up to the first tab. -/
theorem blanks_cases (b : Json.Blanks) :
    b.isTabbed = false ∧ (∀ x ∈ unifyLineEnds b.chars, isGap x) ∨
      b.isTabbed = true ∧
        ∃ gaps rest, unifyLineEnds b.chars = gaps ++ '\t' :: rest ∧ ∀ x ∈ gaps, isGap x := by
  by_cases htab : '\t' ∈ unifyLineEnds b.chars
  · refine Or.inr ⟨?_, ?_⟩
    · rw [tab_mem_unifyLineEnds] at htab
      simpa [Json.Blanks.isTabbed] using htab
    · obtain ⟨gaps, rest, hsplit, hnone⟩ := List.eq_append_cons_of_mem htab
      refine ⟨gaps, rest, hsplit, fun x hx => ?_⟩
      have hmem : x ∈ unifyLineEnds b.chars := hsplit ▸ List.mem_append_left _ hx
      exact (isGap_or_tab b x hmem).resolve_right fun heq => hnone (heq ▸ hx)
  · refine Or.inl ⟨?_, fun x hx => ?_⟩
    · rw [tab_mem_unifyLineEnds] at htab
      simpa [Json.Blanks.isTabbed] using htab
    · exact (isGap_or_tab b x hx).resolve_right fun heq => htab (heq ▸ hx)

theorem oneLine_of_isPortableString {s : List Json.Piece} (h : Json.isPortableString s) : OneLine s := by
  intro p hp x hx
  have hall := List.all_eq_true.mp h x (List.mem_flatMap.mpr ⟨p, hp, hx⟩)
  simp only [Bool.and_eq_true, Bool.not_eq_true'] at hall
  exact hall.2

theorem isPermitted_of_mem_stringText {s : List Json.Piece} (h : Json.isPortableString s) {x : Char}
    (hx : x ∈ Json.stringText s) : isPermitted x := by
  rw [Json.stringText, List.mem_cons, List.mem_append, List.mem_singleton] at hx
  rcases hx with rfl | hx | rfl
  · decide
  · have hall := List.all_eq_true.mp h x hx
    simp only [Bool.and_eq_true] at hall
    exact hall.1
  · decide

theorem isPermitted_of_isGap {x : Char} (h : isGap x) : isPermitted x := by
  simp only [isGap, Bool.or_eq_true, beq_iff_eq] at h
  rcases h with rfl | rfl
  · decide
  · decide

theorem isPermitted_blanks (b : Json.Blanks) : ∀ x ∈ unifyLineEnds b.chars, isPermitted x := by
  intro x hx
  rcases isGap_or_tab b x hx with hgap | rfl
  · exact isPermitted_of_isGap hgap
  · decide

theorem isPermitted_enclosed {first last : Char} {s : List Char} (hfirst : isPermitted first)
    (hlast : isPermitted last) (hs : ∀ c ∈ s, isPermitted c) :
    ∀ c ∈ first :: (s ++ [last]), isPermitted c := by
  intro c hc
  rw [List.mem_cons, List.mem_append, List.mem_singleton] at hc
  rcases hc with rfl | hc | rfl
  · exact hfirst
  · exact hs c hc
  · exact hlast

theorem isPermitted_of_mem_numberText {n : Json.Number} {x : Char} (h : x ∈ n.text) : isPermitted x := by
  have hrange := Json.toNat_of_mem_numberText h
  have hle : (decide (0x20 ≤ x.toNat) && decide (x.toNat ≤ 0x7E)) = true := by
    simp only [Bool.and_eq_true, decide_eq_true_eq]
    omega
  simp only [isPermitted, hle, Bool.or_true, Bool.true_or]

/-! ### Permitted characters -/

mutual

theorem isPermitted_spelling : ∀ {x : Json.Spelling}, x.isPortable → ∀ c ∈ x.textWith unifyLineEnds,
    isPermitted c
  | .null, _ => by decide
  | .bool true, _ => by decide
  | .bool false, _ => by decide
  | .number _, _ => fun _ hc => isPermitted_of_mem_numberText hc
  | .str _, h => fun _ hc => isPermitted_of_mem_stringText h hc
  | .emptyList gap, _ => isPermitted_enclosed (by decide) (by decide) (isPermitted_blanks gap)
  | .list items, h => isPermitted_enclosed (by decide) (by decide) (isPermitted_items h)
  | .emptyObject gap, _ => isPermitted_enclosed (by decide) (by decide) (isPermitted_blanks gap)
  | .object fields, h => isPermitted_enclosed (by decide) (by decide) (isPermitted_fields h)

theorem isPermitted_item : ∀ {i : Json.Item}, i.isPortable → ∀ c ∈ i.textWith unifyLineEnds,
    isPermitted c
  | .mk before v after, h => by
    intro c hc
    rw [Json.Item.textWith, List.mem_append, List.mem_append] at hc
    rcases hc with hc | hc | hc
    · exact isPermitted_blanks before c hc
    · exact isPermitted_spelling (x := v) h c hc
    · exact isPermitted_blanks after c hc

theorem isPermitted_items : ∀ {is : Json.Items}, is.isPortable → ∀ c ∈ is.textWith unifyLineEnds,
    isPermitted c
  | .one i, h => isPermitted_item (i := i) h
  | .more i is, h => by
    simp only [Json.Items.isPortable, Bool.and_eq_true] at h
    intro c hc
    rw [Json.Items.textWith, List.mem_append, List.mem_cons] at hc
    rcases hc with hc | rfl | hc
    · exact isPermitted_item h.1 c hc
    · decide
    · exact isPermitted_items h.2 c hc

theorem isPermitted_field : ∀ {m : Json.Field}, m.isPortable → ∀ c ∈ m.textWith unifyLineEnds,
    isPermitted c
  | .mk before name gap inner v after, h => by
    simp only [Json.Field.isPortable, Json.isPortableName, Bool.and_eq_true] at h
    obtain ⟨⟨⟨hname, -⟩, -⟩, hv⟩ := h
    intro c hc
    simp only [Json.Field.textWith, List.mem_append, List.mem_cons] at hc
    rcases hc with hc | hc | hc | rfl | hc | hc | hc
    · exact isPermitted_blanks before c hc
    · exact isPermitted_of_mem_stringText hname hc
    · exact isPermitted_blanks gap c hc
    · decide
    · exact isPermitted_blanks inner c hc
    · exact isPermitted_spelling hv c hc
    · exact isPermitted_blanks after c hc

theorem isPermitted_fields : ∀ {ms : Json.Fields}, ms.isPortable → ∀ c ∈ ms.textWith unifyLineEnds,
    isPermitted c
  | .one m, h => isPermitted_field (m := m) h
  | .more m ms, h => by
    simp only [Json.Fields.isPortable, Bool.and_eq_true] at h
    intro c hc
    rw [Json.Fields.textWith, List.mem_append, List.mem_cons] at hc
    rcases hc with hc | rfl | hc
    · exact isPermitted_field h.1 c hc
    · decide
    · exact isPermitted_fields h.2 c hc

end

/-! ### Tokens -/

mutual

/-- The tokens of a value. -/
def spellingTokens : Json.Spelling → List Token
  | .null => [.scalar "null" true]
  | .bool true => [.scalar "true" true]
  | .bool false => [.scalar "false" true]
  | .number n => [.scalar (String.ofList n.text) true]
  | .str s => [.scalar (Json.stringValue s) false]
  | .emptyList _ => [.flowSequenceStart, .flowSequenceEnd]
  | .list items => .flowSequenceStart :: (itemsTokens items ++ [.flowSequenceEnd])
  | .emptyObject _ => [.flowMappingStart, .flowMappingEnd]
  | .object fields => .flowMappingStart :: (fieldsTokens fields ++ [.flowMappingEnd])

def itemTokens : Json.Item → List Token
  | .mk _ v _ => spellingTokens v

def itemsTokens : Json.Items → List Token
  | .one i => itemTokens i
  | .more i rest => itemTokens i ++ .flowEntry :: itemsTokens rest

def fieldTokens : Json.Field → List Token
  | .mk _ name _ _ v _ =>
    .key :: .scalar (Json.stringValue name) false :: .value :: spellingTokens v

def fieldsTokens : Json.Fields → List Token
  | .one m => fieldTokens m
  | .more m rest => fieldTokens m ++ .flowEntry :: fieldsTokens rest

end

theorem isWordChar_of_mem_numberText {n : Json.Number} {x : Char} (h : x ∈ n.text) : isWordChar x := by
  rcases Json.mem_numberText h with h | h
  · simp [isWordChar, Char.isAlphanum, h]
  · have hmarks : ∀ y ∈ Json.numberMarks, isWordChar y := by decide
    exact hmarks x h

theorem closing_of_mem {x : Char} (hx : x ∈ [',', ']', '\x7d']) (depth : Nat) (rest : List Char) :
    Closing (decide (0 < depth + 1)) (x :: rest) := by
  intro y hy
  obtain rfl := Option.some.inj hy
  exact Or.inr ⟨by simp, hx⟩

/-! ### Runs over tokens and blanks -/

/-- The lexer gets in front of `tail` and finds some tokens on the way, or stops with a fault if there is
a tab. -/
def Lexes (tabbed : Bool) (l : Lexer) (tail : List Char) (found new : List Token) (depth : Nat) : Prop :=
  if tabbed then Faults l else ∃ l', Leads l l' ∧ At l' tail (found ++ new) depth

section Lexes

variable {a b : Bool} {l l' : Lexer} {ahead tail tail' : List Char} {found new more : List Token}
  {depth depth' : Nat}

/-- Some tokens and then others. -/
theorem Lexes.of_leads (hleads : Leads l l') (h : Lexes b l' tail (found ++ new) more depth) :
    Lexes b l tail found (new ++ more) depth := by
  cases b with
  | true => exact Faults.of_leads hleads h
  | false =>
    obtain ⟨l'', hleads', hat⟩ := h
    rw [List.append_assoc] at hat
    exact ⟨l'', hleads.trans hleads', hat⟩

theorem Lexes.append (h : Lexes a l tail found new depth)
    (hmore : ∀ l', At l' tail (found ++ new) depth → Lexes b l' tail' (found ++ new) more depth') :
    Lexes (a || b) l tail' found (new ++ more) depth' := by
  cases a with
  | true => exact h
  | false =>
    obtain ⟨l', hleads, hat⟩ := h
    exact Lexes.of_leads hleads (hmore l' hat)

theorem faults_of_isTabbed {blanks : Json.Blanks}
    (h : At l (unifyLineEnds blanks.chars ++ ahead) found depth) (htab : blanks.isTabbed = true) :
    Faults l := by
  rcases blanks_cases blanks with ⟨hnone, -⟩ | ⟨-, gaps, rest, hsplit, hgaps⟩
  · rw [htab] at hnone
    cases hnone
  · rw [hsplit, List.append_assoc] at h
    exact lex_tab (h.skip hgaps)

/-- The blanks in front of a token. -/
theorem lexes_blanks {blanks : Json.Blanks} (h : At l (unifyLineEnds blanks.chars ++ ahead) found depth)
    (hmore : At l ahead found depth → Lexes b l tail found new depth') :
    Lexes (blanks.isTabbed || b) l tail found new depth' := by
  by_cases htab : blanks.isTabbed = true
  · rw [htab]
    exact faults_of_isTabbed h htab
  · rcases blanks_cases blanks with ⟨hnone, hgaps⟩ | ⟨hsome, -⟩
    · rw [hnone]
      exact hmore (h.skip hgaps)
    · exact absurd hsome htab

/-- The blanks behind a token. -/
theorem lexes_after {blanks : Json.Blanks} (h : At l (unifyLineEnds blanks.chars ++ tail) found depth) :
    Lexes blanks.isTabbed l tail found [] depth := by
  have hlexes : Lexes (blanks.isTabbed || false) l tail found [] depth :=
    lexes_blanks h fun hat => ⟨l, Leads.refl l, by rw [List.append_nil]; exact hat⟩
  rwa [Bool.or_false] at hlexes

/-- A word takes the blanks behind it. -/
theorem lexes_word {w : List Char} {blanks : Json.Blanks}
    (h : At l (w ++ (unifyLineEnds blanks.chars ++ tail)) found depth) (hw : ∀ x ∈ w, isWordChar x)
    (hstart : ∃ x s, w = x :: s ∧ StartsWord x s)
    (htail : Closing (decide (0 < depth)) tail) :
    Lexes blanks.isTabbed l tail found [.scalar (String.ofList w) true] depth := by
  rcases blanks_cases blanks with ⟨htab, hgaps⟩ | ⟨htab, gaps, rest, hsplit, hgaps⟩
  · rw [htab]
    exact lex_word h hw hstart hgaps htail
  · rw [htab]
    rw [hsplit, List.append_assoc] at h
    have hclosing : Closing (decide (0 < depth)) ('\t' :: rest ++ tail) := by
      intro x hx
      exact Or.inl (Option.some.inj hx).symm
    obtain ⟨l', hleads, hat⟩ := lex_word h hw hstart hgaps hclosing
    exact Faults.of_leads hleads (lex_tab hat)

end Lexes

/-! ### The grammar -/

mutual

theorem lex_spelling : ∀ (x : Json.Spelling) {l : Lexer} {found : List Token} {depth : Nat}
    {after : Json.Blanks} {tail : List Char}, x.isPortable →
    At l (x.textWith unifyLineEnds ++ (unifyLineEnds after.chars ++ tail)) found depth →
    Closing (decide (0 < depth)) tail →
    Lexes (x.isTabbed || after.isTabbed) l tail found (spellingTokens x) depth
  | .null, _, _, _, _, _, _, h, htail =>
    lexes_word h (by decide) ⟨_, _, rfl, Or.inl (by decide)⟩ htail
  | .bool true, _, _, _, _, _, _, h, htail =>
    lexes_word h (by decide) ⟨_, _, rfl, Or.inl (by decide)⟩ htail
  | .bool false, _, _, _, _, _, _, h, htail =>
    lexes_word h (by decide) ⟨_, _, rfl, Or.inl (by decide)⟩ htail
  | .number n, _, _, _, _, _, _, h, htail => by
    obtain ⟨x, s, hn, hx⟩ := Json.numberText_eq n
    have hstart : StartsWord x s := by
      rcases hx with hx | hx
      · exact Or.inl (by simp [Char.isAlphanum, hx])
      · exact Or.inr hx
    exact lexes_word h (fun _ => isWordChar_of_mem_numberText) ⟨x, s, hn, hstart⟩ htail
  | .str s, _, _, _, after, _, hp, h, _ => by
    obtain ⟨l₁, hleads, hat⟩ := lex_string h (oneLine_of_isPortableString hp)
    exact Lexes.of_leads hleads (lexes_after hat)
  | .emptyList gap, l, found, depth, after, tail, _, h, _ => by
    have hopen : At l ('[' :: (unifyLineEnds gap.chars ++ ']' :: (unifyLineEnds after.chars ++ tail)))
        found depth := by
      simpa [Json.Spelling.textWith] using h
    obtain ⟨l₁, hleads₁, hat₁, -⟩ := lex_openFlow hopen (by decide) fun _ => token_openList
    refine Lexes.of_leads hleads₁ (lexes_blanks hat₁ fun hclose => ?_)
    obtain ⟨l₂, hleads₂, hat₂⟩ := lex_closeFlow hclose (by decide) fun _ => token_closeList
    exact Lexes.of_leads hleads₂ (lexes_after hat₂)
  | .list items, l, found, depth, after, tail, hp, h, _ => by
    have hopen : At l ('[' :: (items.textWith unifyLineEnds ++ ']' :: (unifyLineEnds after.chars ++ tail)))
        found depth := by
      simpa [Json.Spelling.textWith] using h
    obtain ⟨l₁, hleads₁, hat₁, -⟩ := lex_openFlow hopen (by decide) fun _ => token_openList
    refine Lexes.of_leads hleads₁ ((lex_items items hp hat₁).append fun l₂ hclose => ?_)
    obtain ⟨l₃, hleads₃, hat₃⟩ := lex_closeFlow hclose (by decide) fun _ => token_closeList
    exact Lexes.of_leads hleads₃ (lexes_after hat₃)
  | .emptyObject gap, l, found, depth, after, tail, _, h, _ => by
    have hopen : At l ('\x7b' :: (unifyLineEnds gap.chars ++ '\x7d' ::
        (unifyLineEnds after.chars ++ tail))) found depth := by
      simpa [Json.Spelling.textWith] using h
    obtain ⟨l₁, hleads₁, hat₁, -⟩ := lex_openFlow hopen (by decide) fun _ => token_openObject
    refine Lexes.of_leads hleads₁ (lexes_blanks hat₁ fun hclose => ?_)
    obtain ⟨l₂, hleads₂, hat₂⟩ := lex_closeFlow hclose (by decide) fun _ => token_closeObject
    exact Lexes.of_leads hleads₂ (lexes_after hat₂)
  | .object fields, l, found, depth, after, tail, hp, h, _ => by
    have hopen : At l ('\x7b' :: (fields.textWith unifyLineEnds ++ '\x7d' ::
        (unifyLineEnds after.chars ++ tail))) found depth := by
      simpa [Json.Spelling.textWith] using h
    obtain ⟨l₁, hleads₁, hat₁, hallowed⟩ := lex_openFlow hopen (by decide) fun _ => token_openObject
    refine Lexes.of_leads hleads₁ ((lex_fields fields hp hat₁ hallowed).append fun l₂ hclose => ?_)
    obtain ⟨l₃, hleads₃, hat₃⟩ := lex_closeFlow hclose (by decide) fun _ => token_closeObject
    exact Lexes.of_leads hleads₃ (lexes_after hat₃)

theorem lex_item : ∀ (i : Json.Item) {l : Lexer} {found : List Token} {depth : Nat} {tail : List Char},
    i.isPortable → At l (i.textWith unifyLineEnds ++ tail) found (depth + 1) →
    Closing (decide (0 < depth + 1)) tail →
    Lexes i.isTabbed l tail found (itemTokens i) (depth + 1)
  | .mk before v after, _, _, _, _, hp, h, htail => by
    rw [Json.Item.textWith, List.append_assoc, List.append_assoc] at h
    exact lexes_blanks h fun hat => lex_spelling v hp hat htail

theorem lex_items : ∀ (is : Json.Items) {l : Lexer} {found : List Token} {depth : Nat}
    {rest : List Char}, is.isPortable →
    At l (is.textWith unifyLineEnds ++ ']' :: rest) found (depth + 1) →
    Lexes is.isTabbed l (']' :: rest) found (itemsTokens is) (depth + 1)
  | .one i, _, _, _, _, hp, h => lex_item i hp h (closing_of_mem (by decide) _ _)
  | .more i is, _, _, _, _, hp, h => by
    simp only [Json.Items.isPortable, Bool.and_eq_true] at hp
    rw [Json.Items.textWith, List.append_assoc, List.cons_append] at h
    refine (lex_item i hp.1 h (closing_of_mem (by decide) _ _)).append fun l₁ hat₁ => ?_
    obtain ⟨l₂, hleads₂, hat₂, -⟩ := lex_comma hat₁
    exact Lexes.of_leads hleads₂ (lex_items is hp.2 hat₂)

theorem lex_field : ∀ (m : Json.Field) {l : Lexer} {found : List Token} {depth : Nat}
    {tail : List Char}, m.isPortable → At l (m.textWith unifyLineEnds ++ tail) found (depth + 1) →
    l.keyAllowed = true → Closing (decide (0 < depth + 1)) tail →
    Lexes m.isTabbed l tail found (fieldTokens m) (depth + 1)
  | .mk before name gap inner v after, l, found, depth, tail, hp, h, hallowed, htail => by
    simp only [Json.Field.isPortable, Json.isPortableName, Bool.and_eq_true, decide_eq_true_eq] at hp
    obtain ⟨⟨⟨hname, hgap⟩, hreach⟩, hv⟩ := hp
    have hline := oneLine_of_isPortableString hname
    simp only [Json.Field.textWith, List.append_assoc, List.cons_append] at h
    refine lexes_blanks h fun hkey => ?_
    by_cases htab : gap.isTabbed = true
    · -- the lexer stops at the tab, before it gets to the colon
      obtain ⟨l₁, hleads₁, hat₁⟩ := lex_string hkey hline
      rw [htab]
      exact Faults.of_leads hleads₁ (faults_of_isTabbed hat₁ htab)
    · have hspaces : ∀ x ∈ gap.chars, x = ' ' := by
        intro x hx
        have hspace := List.all_eq_true.mp hgap x hx
        simp only [isSpace, Bool.or_eq_true, beq_iff_eq] at hspace
        rcases hspace with rfl | rfl
        · rfl
        · exact absurd (by simpa [Json.Blanks.isTabbed] using hx) htab
      have hsame : unifyLineEnds gap.chars = gap.chars := by
        have hreturn : '\r' ∉ gap.chars := fun hmem => absurd (hspaces _ hmem) (by decide)
        have hall := Json.unifyLineEnds_of_notMem hreturn []
        simpa [unifyLineEnds] using hall
      rw [hsame] at hkey
      obtain ⟨l₁, hleads₁, hat₁⟩ := lex_key hkey hallowed hline hspaces hreach
      rw [Bool.not_eq_true] at htab
      rw [htab]
      exact Lexes.of_leads hleads₁ (lexes_blanks hat₁ fun hat => lex_spelling v hv hat htail)

theorem lex_fields : ∀ (ms : Json.Fields) {l : Lexer} {found : List Token} {depth : Nat}
    {rest : List Char}, ms.isPortable →
    At l (ms.textWith unifyLineEnds ++ '\x7d' :: rest) found (depth + 1) → l.keyAllowed = true →
    Lexes ms.isTabbed l ('\x7d' :: rest) found (fieldsTokens ms) (depth + 1)
  | .one m, _, _, _, _, hp, h, hallowed => lex_field m hp h hallowed (closing_of_mem (by decide) _ _)
  | .more m ms, _, _, _, _, hp, h, hallowed => by
    simp only [Json.Fields.isPortable, Bool.and_eq_true] at hp
    rw [Json.Fields.textWith, List.append_assoc, List.cons_append] at h
    refine (lex_field m hp.1 h hallowed (closing_of_mem (by decide) _ _)).append fun l₁ hat₁ => ?_
    obtain ⟨l₂, hleads₂, hat₂, hallowed₂⟩ := lex_comma hat₁
    exact Lexes.of_leads hleads₂ (lex_fields ms hp.2 hat₂ hallowed₂)

end

/-! ### Texts -/

/-- A text starts with a blank or with its value, and so with no byte order mark. -/
theorem dropMark_textWith (t : Json.Source) :
    dropMark (Cursor.start (t.textWith unifyLineEnds)) = Cursor.start (t.textWith unifyLineEnds) := by
  obtain ⟨x, s, hx, -, hascii⟩ := Json.textWith_eq_cons unifyLineEnds t.root
  have hhead : ∀ c ∈ (t.textWith unifyLineEnds).head?, c.toNat < 127 := by
    intro c hc
    rw [Json.Source.textWith, hx] at hc
    cases hbefore : unifyLineEnds t.before.chars with
    | nil =>
      rw [hbefore] at hc
      exact Option.some.inj hc ▸ hascii
    | cons y blanks =>
      rw [hbefore] at hc
      obtain rfl := Option.some.inj hc
      have hgap := isGap_or_tab t.before y (hbefore ▸ List.mem_cons_self)
      simp only [isGap, Bool.or_eq_true, beq_iff_eq] at hgap
      rcases hgap with (rfl | rfl) | rfl
      · decide
      · decide
      · decide
  have hmark : ((Cursor.start (t.textWith unifyLineEnds)).peek 0 == some (Char.ofNat 0xFEFF)) = false := by
    rw [beq_eq_false_iff_ne, Cursor.peek, ← List.head?_eq_getElem?]
    exact fun heq => absurd (hhead _ heq) (by decide)
  rw [dropMark, hmark]
  rfl

theorem isPermitted_textWith {t : Json.Source} (h : t.isPortable) :
    (t.textWith unifyLineEnds).all isPermitted = true := by
  refine List.all_eq_true.mpr fun c hc => ?_
  rw [Json.Source.textWith, List.mem_append, List.mem_append] at hc
  rcases hc with hc | hc | hc
  · exact isPermitted_blanks t.before c hc
  · exact isPermitted_spelling h c hc
  · exact isPermitted_blanks t.after c hc

/-- The lexer finds the tokens of a portable text, or stops at a tab. -/
theorem tokens_textWith {t : Json.Source} (h : t.isPortable) :
    if t.isTabbed then (tokens (t.textWith unifyLineEnds)).fault = some .malformed
    else tokens (t.textWith unifyLineEnds) = ⟨spellingTokens t.root, none⟩ := by
  set start := Lexer.start (t.textWith unifyLineEnds) with hdef
  have hcalm : Calm start [] 0 := ⟨rfl, rfl, by simp [hdef, Lexer.start], rfl, rfl⟩
  have hstart : At start (unifyLineEnds t.before.chars ++ (t.root.textWith unifyLineEnds ++
      (unifyLineEnds t.after.chars ++ []))) [] 0 := by
    rw [List.append_nil]
    exact hcalm.at rfl
  have hlexes : Lexes t.isTabbed start [] [] (spellingTokens t.root) 0 :=
    lexes_blanks hstart fun hat => lex_spelling t.root h hat (by simp [Closing])
  have htokens : tokens (t.textWith unifyLineEnds) =
      lexFrom ((t.textWith unifyLineEnds).length + 1) start := by
    rw [tokens, if_pos (isPermitted_textWith h)]
    change lexFrom _ ((Lexer.start _).moveTo (dropMark (Cursor.start (t.textWith unifyLineEnds)))) = _
    rw [dropMark_textWith]
    rfl
  rw [htokens]
  unfold Lexes at hlexes
  split_ifs with htab
  · rw [if_pos htab] at hlexes
    exact hlexes _ (Nat.lt_succ_self _)
  · rw [if_neg htab] at hlexes
    obtain ⟨l, hleads, hend⟩ := hlexes
    obtain ⟨m, hm, hlex⟩ := hleads _ (Nat.lt_succ_self (t.textWith unifyLineEnds).length)
    rw [hlex, lexFrom_end hend (by omega)]
    rfl

end PatternLint.Yaml
