import Mathlib.Tactic
import PatternLint.Json
import PatternLint.Proofs.Text.Decimal

/-!
# The tokens of a JSON text

`tokens` reads a text by the lexical rules of the format: blanks between tokens, punctuation, the three
words, strings with every kind of escape, and numbers, of which only whole ones are values here.  A
rendered value has the tokens of the value, however it is laid out (`tokens_renderAt`): an indent adds
nothing but blanks.
-/

namespace PatternLint.Json

open PatternLint.Text

inductive Token
  | openList
  | closeList
  | openObject
  | closeObject
  | comma
  | colon
  | null
  | bool (b : Bool)
  | int (n : Int)
  | str (s : String)
  deriving DecidableEq, Repr

def isBlank (c : Char) : Bool := c = ' ' || c = '\t' || c = '\n' || c = '\r'

/-! ### Strings -/

def hexValue? (c : Char) : Option Nat :=
  if '0' ≤ c ∧ c ≤ '9' then some (c.toNat - 48)
  else if 'a' ≤ c ∧ c ≤ 'f' then some (c.toNat - 87)
  else if 'A' ≤ c ∧ c ≤ 'F' then some (c.toNat - 55)
  else none

/-- Four hexadecimal digits. -/
def readUnit : List Char → Option (Nat × List Char)
  | a :: b :: c :: d :: rest => do
    let a ← hexValue? a
    let b ← hexValue? b
    let c ← hexValue? c
    let d ← hexValue? d
    return (((a * 16 + b) * 16 + c) * 16 + d, rest)
  | _ => none

/-- A character given by its number.  One beyond the basic plane takes two escapes in a row, a high and
a low surrogate, and no surrogate stands alone. -/
def readNumbered (s : List Char) : Option (Char × List Char) := do
  let (n, rest) ← readUnit s
  if 0xD800 ≤ n ∧ n < 0xDC00 then
    match rest with
    | '\\' :: 'u' :: low => do
      let (m, rest) ← readUnit low
      if 0xDC00 ≤ m ∧ m < 0xE000 then
        return (Char.ofNat (0x10000 + (n - 0xD800) * 0x400 + (m - 0xDC00)), rest)
      else none
    | _ => none
  else if 0xDC00 ≤ n ∧ n < 0xE000 then none
  else return (Char.ofNat n, rest)

/-- The characters that are escaped by a single letter or sign. -/
def shortEscapes : List (Char × Char) :=
  [(doubleQuote, doubleQuote), ('\\', '\\'), ('/', '/'), ('b', Char.ofNat 8), ('f', Char.ofNat 12),
    ('n', '\n'), ('r', '\r'), ('t', '\t')]

/-- What stands behind a backslash. -/
def readEscape : List Char → Option (Char × List Char)
  | [] => none
  | c :: rest => if c = 'u' then readNumbered rest else (shortEscapes.lookup c).map (·, rest)

theorem readUnit_length {s rest : List Char} {n : Nat} (h : readUnit s = some (n, rest)) :
    rest.length < s.length := by
  unfold readUnit at h
  split at h
  · simp only [Option.bind_eq_bind, Option.bind_eq_some_iff, Option.pure_def, Option.some.injEq,
      Prod.mk.injEq] at h
    obtain ⟨_, -, _, -, _, -, _, -, -, rfl⟩ := h
    simp only [List.length_cons]
    omega
  · simp at h

theorem readNumbered_length {s rest : List Char} {c : Char} (h : readNumbered s = some (c, rest)) :
    rest.length < s.length := by
  unfold readNumbered at h
  simp only [Option.bind_eq_bind, Option.bind_eq_some_iff] at h
  obtain ⟨⟨n, behind⟩, hunit, h⟩ := h
  have hfirst := readUnit_length hunit
  dsimp only at h
  split_ifs at h
  · split at h
    · simp only [Option.bind_eq_some_iff] at h
      obtain ⟨⟨m, last⟩, hlow, h⟩ := h
      have hsecond := readUnit_length hlow
      split_ifs at h
      simp only [Option.pure_def, Option.some.injEq, Prod.mk.injEq] at h
      obtain ⟨-, rfl⟩ := h
      simp only [List.length_cons] at hfirst
      omega
    · simp at h
  · simp only [Option.pure_def, Option.some.injEq, Prod.mk.injEq] at h
    obtain ⟨-, rfl⟩ := h
    exact hfirst

theorem readEscape_length {s rest : List Char} {c : Char} (h : readEscape s = some (c, rest)) :
    rest.length < s.length := by
  cases s with
  | nil => simp [readEscape] at h
  | cons x s =>
    rw [readEscape] at h
    split_ifs at h
    · have := readNumbered_length h
      simp only [List.length_cons]
      omega
    · simp only [Option.map_eq_some_iff, Prod.mk.injEq] at h
      obtain ⟨_, -, -, rfl⟩ := h
      simp

/-- A string up to its closing quote; control characters are never written as they are. -/
def readString : List Char → Option (List Char × List Char)
  | [] => none
  | c :: rest =>
    if c = doubleQuote then some ([], rest)
    else if c = '\\' then
      match _h : readEscape rest with
      | none => none
      | some (x, behind) => (readString behind).map fun (s, last) => (x :: s, last)
    else if c.toNat < 32 then none
    else (readString rest).map fun (s, last) => (c :: s, last)
termination_by s => s.length
decreasing_by
  · have := readEscape_length _h
    simp only [List.length_cons]
    omega
  · simp

/-! ### Tokens -/

/-- The tokens that have only one spelling. -/
def fixedTokens : List (String × Token) :=
  [("[", .openList), ("]", .closeList), ("\x7b", .openObject), ("\x7d", .closeObject), (",", .comma),
    (":", .colon), ("null", .null), ("true", .bool true), ("false", .bool false)]

def fixed? (s : List Char) : Option (Token × List Char) :=
  fixedTokens.findSome? fun (text, t) => (text.toList.isPrefixOf? s).map (t, ·)

def string? : List Char → Option (Token × List Char)
  | [] => none
  | c :: rest =>
    if c = doubleQuote then (readString rest).map fun (s, last) => (.str (String.ofList s), last)
    else none

/-- The text does not go on as a fraction or with an exponent. -/
def isWhole : List Char → Bool
  | [] => true
  | c :: _ => !(c = '.' || c = 'e' || c = 'E')

def number? (s : List Char) : Option (Token × List Char) :=
  match readInt s with
  | none => none
  | some (n, rest) => if isWhole rest then some (.int n, rest) else none

/-- The token at the start of a text. -/
def token? (s : List Char) : Option (Token × List Char) :=
  (fixed? s).or ((string? s).or (number? s))

theorem readString_length {s read rest : List Char} (h : readString s = some (read, rest)) :
    rest.length < s.length := by
  fun_induction readString s generalizing read with
  | case1 => simp at h
  | case2 tail =>
    obtain ⟨-, rfl⟩ := Prod.mk.inj (Option.some.inj h)
    simp
  | case3 => simp at h
  | case4 tail x behind hescape _ ih =>
    obtain ⟨⟨s, last⟩, hs, hlast⟩ := Option.map_eq_some_iff.mp h
    obtain ⟨-, rfl⟩ := Prod.mk.inj hlast
    have hfirst := readEscape_length hescape
    have hsecond := ih hs
    simp only [List.length_cons]
    omega
  | case5 => simp at h
  | case6 c tail _ _ _ ih =>
    obtain ⟨⟨s, last⟩, hs, hlast⟩ := Option.map_eq_some_iff.mp h
    obtain ⟨-, rfl⟩ := Prod.mk.inj hlast
    have hrest := ih hs
    simp only [List.length_cons]
    omega

theorem fixed?_length {s rest : List Char} {t : Token} (h : fixed? s = some (t, rest)) :
    rest.length < s.length := by
  obtain ⟨⟨text, t'⟩, hmem, hfound⟩ := List.exists_of_findSome?_eq_some h
  obtain ⟨last, hlast, heq⟩ := Option.map_eq_some_iff.mp hfound
  obtain ⟨-, rfl⟩ := Prod.mk.inj heq
  have hspelled : ∀ p ∈ fixedTokens, 0 < p.1.toList.length := by decide
  have hpos := hspelled _ hmem
  have happend : text.toList ++ last = s := List.isPrefixOf?_eq_some_iff_append_eq.mp hlast
  rw [← happend, List.length_append]
  dsimp only at hpos
  omega

theorem string?_length {s rest : List Char} {t : Token} (h : string? s = some (t, rest)) :
    rest.length < s.length := by
  cases s with
  | nil => simp [string?] at h
  | cons c s =>
    rw [string?] at h
    split_ifs at h
    obtain ⟨⟨read, last⟩, hread, heq⟩ := Option.map_eq_some_iff.mp h
    obtain ⟨-, rfl⟩ := Prod.mk.inj heq
    have := readString_length hread
    simp only [List.length_cons]
    omega

theorem number?_length {s rest : List Char} {t : Token} (h : number? s = some (t, rest)) :
    rest.length < s.length := by
  unfold number? at h
  split at h
  · simp at h
  · rename_i n last hread
    split_ifs at h
    obtain ⟨-, rfl⟩ := Prod.mk.inj (Option.some.inj h)
    exact readInt_length hread

theorem token?_length {s rest : List Char} {t : Token} (h : token? s = some (t, rest)) :
    rest.length < s.length := by
  rcases Option.or_eq_some_iff.mp h with h | ⟨-, h⟩
  · exact fixed?_length h
  · rcases Option.or_eq_some_iff.mp h with h | ⟨-, h⟩
    · exact string?_length h
    · exact number?_length h

/-- The tokens of a text, blanks between them left out. -/
def tokens (s : List Char) : Option (List Token) :=
  match _h : s.dropWhile isBlank with
  | [] => some []
  | c :: rest =>
    match _ht : token? (c :: rest) with
    | none => none
    | some (t, behind) => (tokens behind).map (t :: ·)
termination_by s.length
decreasing_by
  have htoken := token?_length _ht
  have hblank := (List.dropWhile_suffix (l := s) isBlank).length_le
  rw [_h] at hblank
  omega

/-! ### Rendered strings -/

theorem hexValue?_hexDigit {d : Nat} (h : d < 16) : hexValue? (hexDigit d) = some d := by
  interval_cases d <;> decide

theorem readUnit_hexDigits {n : Nat} (h : n < 65536) (rest : List Char) :
    readUnit (hexDigits 4 n ++ rest) = some (n, rest) := by
  have hopen : hexDigits 4 n ++ rest =
      hexDigit (n / 16 / 16 / 16 % 16) :: hexDigit (n / 16 / 16 % 16) :: hexDigit (n / 16 % 16) ::
        hexDigit (n % 16) :: rest := rfl
  rw [hopen, readUnit, hexValue?_hexDigit (by omega), hexValue?_hexDigit (by omega),
    hexValue?_hexDigit (by omega), hexValue?_hexDigit (by omega)]
  simp only [Option.bind_eq_bind, Option.bind_some, Option.pure_def, Option.some.injEq,
    Prod.mk.injEq, and_true]
  omega

theorem readString_short {x c : Char} (h : shortEscapes.lookup x = some c) (hu : x ≠ 'u')
    (rest : List Char) :
    readString ('\\' :: x :: rest) = (readString rest).map fun (s, last) => (c :: s, last) := by
  have hescape : readEscape (x :: rest) = some (c, rest) := by simp [readEscape, hu, h]
  rw [readString, if_neg (by decide), if_pos rfl]
  split <;> simp_all

theorem readString_control {c : Char} (h : c.toNat < 32) (rest : List Char) :
    readString ('\\' :: 'u' :: (hexDigits 4 c.toNat ++ rest)) =
      (readString rest).map fun (s, last) => (c :: s, last) := by
  have hescape : readEscape ('u' :: (hexDigits 4 c.toNat ++ rest)) = some (c, rest) := by
    rw [readEscape, if_pos rfl, readNumbered, readUnit_hexDigits (by omega)]
    have hplane : ¬ (0xD800 ≤ c.toNat ∧ c.toNat < 0xDC00) ∧ ¬ (0xDC00 ≤ c.toNat ∧ c.toNat < 0xE000) := by
      omega
    simp [hplane.1, hplane.2]
  rw [readString, if_neg (by decide), if_pos rfl]
  split <;> simp_all

/-- One character is read back, whether it is escaped or not. -/
theorem readString_escapeChar (c : Char) (rest : List Char) :
    readString (escapeChar c ++ rest) = (readString rest).map fun (s, last) => (c :: s, last) := by
  unfold escapeChar
  split_ifs with hquote hn hr ht hb hf hcontrol
  · rcases Bool.or_eq_true_iff.mp hquote with h | h
    · obtain rfl := beq_iff_eq.mp h
      exact readString_short (by decide) (by decide) rest
    · obtain rfl := beq_iff_eq.mp h
      exact readString_short (by decide) (by decide) rest
  · obtain rfl := beq_iff_eq.mp hn
    exact readString_short (by decide) (by decide) rest
  · obtain rfl := beq_iff_eq.mp hr
    exact readString_short (by decide) (by decide) rest
  · obtain rfl := beq_iff_eq.mp ht
    exact readString_short (by decide) (by decide) rest
  · obtain rfl : c = Char.ofNat 8 := by rw [← beq_iff_eq.mp hb, Char.ofNat_toNat]
    exact readString_short (by decide) (by decide) rest
  · obtain rfl : c = Char.ofNat 12 := by rw [← beq_iff_eq.mp hf, Char.ofNat_toNat]
    exact readString_short (by decide) (by decide) rest
  · exact readString_control hcontrol rest
  · rw [Bool.or_eq_true_iff, not_or, beq_iff_eq, beq_iff_eq] at hquote
    rw [List.singleton_append, readString, if_neg hquote.1, if_neg hquote.2, if_neg hcontrol]

theorem readString_escaped (s rest : List Char) :
    readString (s.flatMap escapeChar ++ doubleQuote :: rest) = some (s, rest) := by
  induction s with
  | nil => simp [readString]
  | cons c s ih =>
    rw [List.flatMap_cons, List.append_assoc, readString_escapeChar, ih]
    rfl

/-! ### Tokens at the start of a text -/

theorem tokens_nil : tokens [] = some [] := by
  rw [tokens]
  rfl

theorem tokens_blank {c : Char} (h : isBlank c) (rest : List Char) :
    tokens (c :: rest) = tokens rest := by
  conv_lhs => rw [tokens]
  conv_rhs => rw [tokens]
  rw [List.dropWhile_cons_of_pos h]

theorem tokens_cons {c : Char} {s rest : List Char} {t : Token} (hc : isBlank c = false)
    (h : token? (c :: s) = some (t, rest)) :
    tokens (c :: s) = (tokens rest).map (t :: ·) := by
  have hdrop : (c :: s).dropWhile isBlank = c :: s := by simp [hc]
  rw [tokens]
  split
  · simp_all
  · rename_i x s' hx
    obtain ⟨rfl, rfl⟩ := List.cons.inj (hdrop.symm.trans hx)
    split <;> simp_all

/-- Punctuation and words are read wherever they stand. -/
theorem tokens_fixed (text : String) (t : Token) (h : (text, t) ∈ fixedTokens) (rest : List Char) :
    tokens (text.toList ++ rest) = (tokens rest).map (t :: ·) := by
  fin_cases h <;> exact tokens_cons rfl rfl

theorem tokens_renderString (s : String) (rest : List Char) :
    tokens ((renderString s).toList ++ rest) = (tokens rest).map (.str s :: ·) := by
  have hopen : (renderString s).toList ++ rest =
      doubleQuote :: (s.toList.flatMap escapeChar ++ doubleQuote :: rest) := by
    simp [renderString]
  have hfixed : ∀ r, fixed? (doubleQuote :: r) = none := fun r => rfl
  rw [hopen]
  refine tokens_cons (by decide) ?_
  rw [token?, hfixed, Option.none_or, string?, if_pos rfl, readString_escaped]
  simp

/-- The text does not go on as a number. -/
def Stops (s : List Char) : Prop := NoDigit s ∧ isWhole s

theorem stops_nil : Stops [] := ⟨noDigit_nil, rfl⟩

/-- A sign that is part of no number. -/
def isStop (c : Char) : Bool := !c.isDigit && isWhole [c]

theorem stops_cons {c : Char} (h : isStop c) (s : List Char) : Stops (c :: s) := by
  rw [isStop, Bool.and_eq_true_iff, Bool.not_eq_true_eq_eq_false] at h
  exact ⟨noDigit_cons h.1 s, h.2⟩

/-- No token with a fixed spelling starts like a number. -/
theorem fixed?_eq_none {c : Char} (h : c.isDigit ∨ c = '-') (s : List Char) :
    fixed? (c :: s) = none := by
  have hheads : ∀ p ∈ fixedTokens, ∃ x xs, p.1.toList = x :: xs ∧ x.isDigit = false ∧ x ≠ '-' := by
    intro p hp
    fin_cases hp <;> exact ⟨_, _, rfl, by decide, by decide⟩
  refine List.findSome?_eq_none_iff.mpr fun p hp => ?_
  obtain ⟨x, xs, hx, hdigit, hsign⟩ := hheads p hp
  have hne : x ≠ c := by
    rintro rfl
    rcases h with h | h
    · simp [hdigit] at h
    · exact hsign h
  simp [hx, List.isPrefixOf?, hne]

theorem head_repr (n : Int) : ∃ c s, n.repr.toList = c :: s ∧ (c.isDigit ∨ c = '-') := by
  rw [toList_repr]
  split_ifs
  · cases hdigits : Nat.toDigits 10 n.toNat with
    | nil => exact absurd hdigits Nat.toDigits_ne_nil
    | cons c s =>
      refine ⟨c, s, rfl, Or.inl ?_⟩
      exact Nat.isDigit_of_mem_toDigits (by decide) (by decide) (hdigits ▸ List.mem_cons_self)
  · exact ⟨'-', _, rfl, Or.inr rfl⟩

theorem tokens_repr (n : Int) {rest : List Char} (h : Stops rest) :
    tokens (n.repr.toList ++ rest) = (tokens rest).map (.int n :: ·) := by
  have hread := readInt_repr n h.1
  obtain ⟨c, s, hcs, hc⟩ := head_repr n
  have hblank : isBlank c = false := by
    rcases hc with hc | rfl
    · by_contra hne
      simp only [isBlank, Bool.not_eq_false, Bool.or_eq_true, decide_eq_true_eq] at hne
      rcases hne with ((rfl | rfl) | rfl) | rfl <;> exact absurd hc (by decide)
    · rfl
  have hquote : c ≠ doubleQuote := by
    rintro rfl
    rcases hc with hc | hc <;> exact absurd hc (by decide)
  rw [hcs, List.cons_append] at hread ⊢
  refine tokens_cons hblank ?_
  rw [token?, fixed?_eq_none hc, Option.none_or, string?, if_neg hquote, Option.none_or, number?,
    hread]
  simp [h.2]

/-! ### Rendered values -/

mutual

/-- The tokens of a value. -/
def tokensOf : Json → List Token
  | .null => [.null]
  | .bool b => [.bool b]
  | .int n => [.int n]
  | .str s => [.str s]
  | .arr [] => [.openList, .closeList]
  | .arr (v :: vs) => .openList :: (tokensOf v ++ (itemTokens vs ++ [.closeList]))
  | .obj [] => [.openObject, .closeObject]
  | .obj ((k, v) :: fs) =>
    .openObject :: .str k :: .colon :: (tokensOf v ++ (fieldTokens fs ++ [.closeObject]))

/-- The tokens of further items of a list. -/
def itemTokens : List Json → List Token
  | [] => []
  | v :: vs => .comma :: (tokensOf v ++ itemTokens vs)

/-- The tokens of further fields of an object. -/
def fieldTokens : List (String × Json) → List Token
  | [] => []
  | (k, v) :: fs => .comma :: .str k :: .colon :: (tokensOf v ++ fieldTokens fs)

end

section Layout

variable (indent : Option Nat)

theorem tokens_blanks {s : List Char} (h : ∀ c ∈ s, isBlank c) (rest : List Char) :
    tokens (s ++ rest) = tokens rest := by
  induction s with
  | nil => rfl
  | cons c s ih =>
    rw [List.cons_append, tokens_blank (h c List.mem_cons_self)]
    exact ih fun x hx => h x (List.mem_cons_of_mem _ hx)

theorem isStop_of_isBlank {c : Char} (h : isBlank c) : isStop c := by
  simp only [isBlank, Bool.or_eq_true, decide_eq_true_eq] at h
  rcases h with ((rfl | rfl) | rfl) | rfl <;> decide

theorem Stops.blanks {s rest : List Char} (h : Stops rest) (hs : ∀ c ∈ s, isBlank c) :
    Stops (s ++ rest) := by
  cases s with
  | nil => exact h
  | cons c s => exact stops_cons (isStop_of_isBlank (hs c List.mem_cons_self)) _

theorem isBlank_newline (level : Nat) : ∀ c ∈ (newline indent level).toList, isBlank c := by
  cases indent with
  | none => simp [newline]
  | some n =>
    intro c hc
    simp only [newline, String.toList_append, String.toList_ofList, List.mem_append,
      List.mem_replicate] at hc
    rcases hc with hc | ⟨-, rfl⟩
    · have hfeed : c = '\n' := by simpa using hc
      subst hfeed
      decide
    · decide

/-- Between two items stand a comma and blanks. -/
theorem separator_eq (level : Nat) :
    ∃ s, (separator indent level).toList = ",".toList ++ s ∧ ∀ c ∈ s, isBlank c := by
  cases indent with
  | none => exact ⟨[' '], by simp [separator], by simp [isBlank]⟩
  | some n =>
    exact ⟨(newline (some n) level).toList, by simp [separator], isBlank_newline (some n) level⟩

theorem tokens_newline (level : Nat) (rest : List Char) :
    tokens ((newline indent level).toList ++ rest) = tokens rest :=
  tokens_blanks (isBlank_newline indent level) rest

theorem tokens_separator (level : Nat) (rest : List Char) :
    tokens ((separator indent level).toList ++ rest) = (tokens rest).map (.comma :: ·) := by
  obtain ⟨s, hs, hblank⟩ := separator_eq indent level
  rw [hs, List.append_assoc, tokens_fixed "," .comma (by decide), tokens_blanks hblank]

theorem tokens_colon (rest : List Char) :
    tokens (": ".toList ++ rest) = (tokens rest).map (.colon :: ·) := by
  have hopen : ": ".toList ++ rest = ":".toList ++ (' ' :: rest) := by simp
  rw [hopen, tokens_fixed ":" .colon (by decide), tokens_blank (by decide)]

theorem stops_separator (level : Nat) (rest : List Char) :
    Stops ((separator indent level).toList ++ rest) := by
  obtain ⟨s, hs, -⟩ := separator_eq indent level
  rw [hs]
  exact stops_cons (by decide) (s ++ rest)

theorem Stops.renderItems {rest : List Char} (h : Stops rest) (level : Nat) (vs : List Json) :
    Stops ((renderItems indent level vs).toList ++ rest) := by
  cases vs with
  | nil => simpa [Json.renderItems] using h
  | cons v vs =>
    rw [Json.renderItems, String.toList_append, String.toList_append, List.append_assoc,
      List.append_assoc]
    exact stops_separator indent level _

theorem Stops.renderFields {rest : List Char} (h : Stops rest) (level : Nat)
    (fs : List (String × Json)) : Stops ((renderFields indent level fs).toList ++ rest) := by
  cases fs with
  | nil => simpa [Json.renderFields] using h
  | cons f fs =>
    obtain ⟨k, v⟩ := f
    simp only [Json.renderFields, String.toList_append, List.append_assoc]
    exact stops_separator indent level _

mutual

/-- **A value keeps its tokens**, whatever the indent and the level are. -/
theorem tokens_renderAt (level : Nat) : ∀ (v : Json) {rest : List Char}, Stops rest →
    tokens ((renderAt indent level v).toList ++ rest) = (tokens rest).map (tokensOf v ++ ·)
  | .null, rest, _ => by
    rw [renderAt, tokens_fixed "null" .null (by decide)]
    rfl
  | .bool true, rest, _ => by
    rw [renderAt, if_pos rfl, tokens_fixed "true" (.bool true) (by decide)]
    rfl
  | .bool false, rest, _ => by
    rw [renderAt, if_neg (by decide), tokens_fixed "false" (.bool false) (by decide)]
    rfl
  | .int n, rest, h => by
    -- only a number could go on into what follows, so only here `Stops` is used
    rw [renderAt, Int.toString_eq_repr, tokens_repr n h]
    rfl
  | .str s, rest, _ => by
    rw [renderAt, tokens_renderString]
    rfl
  | .arr [], rest, _ => by
    have hopen : (renderAt indent level (.arr [])).toList ++ rest =
        "[".toList ++ ("]".toList ++ rest) := by
      simp [renderAt]
    rw [hopen, tokens_fixed "[" .openList (by decide), tokens_fixed "]" .closeList (by decide)]
    simp [tokensOf, Function.comp_def]
  | .arr (v :: vs), rest, h => by
    have hend : Stops ((newline indent level).toList ++ ("]".toList ++ rest)) :=
      (stops_cons (by decide) rest).blanks (isBlank_newline indent level)
    simp only [renderAt, String.toList_append, List.append_assoc]
    rw [tokens_fixed "[" .openList (by decide), tokens_newline,
      tokens_renderAt (level + 1) v (hend.renderItems indent (level + 1) vs),
      tokens_renderItems (level + 1) vs hend, tokens_newline,
      tokens_fixed "]" .closeList (by decide)]
    simp [tokensOf, Function.comp_def]
  | .obj [], rest, _ => by
    have hopen : (renderAt indent level (.obj [])).toList ++ rest =
        "\x7b".toList ++ ("\x7d".toList ++ rest) := by
      simp [renderAt]
    rw [hopen, tokens_fixed "\x7b" .openObject (by decide),
      tokens_fixed "\x7d" .closeObject (by decide)]
    simp [tokensOf, Function.comp_def]
  | .obj ((k, v) :: fs), rest, h => by
    have hend : Stops ((newline indent level).toList ++ ("\x7d".toList ++ rest)) :=
      (stops_cons (by decide) rest).blanks (isBlank_newline indent level)
    simp only [renderAt, String.toList_append, List.append_assoc]
    rw [tokens_fixed "\x7b" .openObject (by decide), tokens_newline, tokens_renderString,
      tokens_colon, tokens_renderAt (level + 1) v (hend.renderFields indent (level + 1) fs),
      tokens_renderFields (level + 1) fs hend, tokens_newline,
      tokens_fixed "\x7d" .closeObject (by decide)]
    simp [tokensOf, Function.comp_def]

theorem tokens_renderItems (level : Nat) : ∀ (vs : List Json) {rest : List Char}, Stops rest →
    tokens ((renderItems indent level vs).toList ++ rest) = (tokens rest).map (itemTokens vs ++ ·)
  | [], rest, _ => by simp [renderItems, itemTokens]
  | v :: vs, rest, h => by
    simp only [renderItems, String.toList_append, List.append_assoc]
    rw [tokens_separator, tokens_renderAt level v (h.renderItems indent level vs),
      tokens_renderItems level vs h]
    simp [itemTokens, Function.comp_def]

theorem tokens_renderFields (level : Nat) : ∀ (fs : List (String × Json)) {rest : List Char},
    Stops rest →
    tokens ((renderFields indent level fs).toList ++ rest) = (tokens rest).map (fieldTokens fs ++ ·)
  | [], rest, _ => by simp [renderFields, fieldTokens]
  | (k, v) :: fs, rest, h => by
    simp only [renderFields, String.toList_append, List.append_assoc]
    rw [tokens_separator, tokens_renderString, tokens_colon,
      tokens_renderAt level v (h.renderFields indent level fs), tokens_renderFields level fs h]
    simp [fieldTokens, Function.comp_def]

end

end Layout

end PatternLint.Json
