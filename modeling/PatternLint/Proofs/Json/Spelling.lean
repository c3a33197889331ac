import PatternLint.Document
import PatternLint.Proofs.Json.Token
import PatternLint.Text.Lines

/-!
# How a value is spelled

A JSON text says more than its value: where the blanks are, which characters of a string are escaped and
how, and how a number is written.  A `Spelling` keeps all of this, rule by rule of the format's grammar, so
every text of the format is the text of a spelling and every spelling denotes a document.  Escapes that
denote half of a surrogate pair are left out.

The line ends of a text are blanks, never part of a string; so writing them all alike changes the blanks
of the text and nothing else (`unifyLineEnds_chars`).
-/

namespace PatternLint.Json

open PatternLint.Text

/-- Blanks around a token. -/
structure Blanks where
  chars : List Char
  blank : ∀ c ∈ chars, isBlank c

/-! ### Strings -/

/-- One character of a string, as it is written. -/
inductive Piece
  | raw (c : Char) (control : 32 ≤ c.toNat) (quote : c ≠ doubleQuote) (escape : c ≠ '\\')
  | short (letter c : Char) (listed : (letter, c) ∈ shortEscapes)
  | numbered (digits : List Char) (code : Nat) (read : readUnit digits = some (code, []))
      (whole : code.isValidChar)

namespace Piece

def text : Piece → List Char
  | .raw c _ _ _ => [c]
  | .short letter _ _ => ['\\', letter]
  | .numbered digits _ _ _ => '\\' :: 'u' :: digits

def char : Piece → Char
  | .raw c _ _ _ => c
  | .short _ c _ => c
  | .numbered _ code _ _ => Char.ofNat code

end Piece

/-- A string between its quotes. -/
def stringText (s : List Piece) : List Char :=
  doubleQuote :: (s.flatMap Piece.text ++ [doubleQuote])

def stringValue (s : List Piece) : String := String.ofList (s.map Piece.char)

/-! ### Numbers -/

/-- Decimal digits, at least one. -/
structure Digits where
  chars : List Char
  ne_nil : chars ≠ []
  digit : ∀ c ∈ chars, c.isDigit

structure Exponent where
  capital : Bool
  /-- The sign, if there is one: plus or minus. -/
  sign : Option Bool
  digits : Digits

def Exponent.text (e : Exponent) : List Char :=
  (if e.capital then 'E' else 'e') ::
    ((match e.sign with
      | none => []
      | some true => ['+']
      | some false => ['-']) ++ e.digits.chars)

/-- A number.  Its whole part has no leading zeros, so the value determines how it is written. -/
structure Number where
  negative : Bool
  whole : Nat
  fraction : Option Digits
  exponent : Option Exponent

namespace Number

def text (n : Number) : List Char :=
  (if n.negative then ['-'] else []) ++ Nat.toDigits 10 n.whole ++
    (match n.fraction with
      | none => []
      | some d => '.' :: d.chars) ++
    match n.exponent with
      | none => []
      | some e => e.text

/-- Whether only a whole part is written. -/
def isWhole (n : Number) : Bool := n.fraction.isNone && n.exponent.isNone

def value (n : Number) : Document :=
  if n.isWhole then .int (if n.negative then -(n.whole : Int) else n.whole) else .other .float

end Number

/-! ### Values -/

mutual

inductive Spelling
  | null
  | bool (b : Bool)
  | number (n : Number)
  | str (s : List Piece)
  | emptyList (gap : Blanks)
  | list (items : Items)
  | emptyObject (gap : Blanks)
  | object (fields : Fields)

/-- An item of a list and the blanks around it. -/
inductive Item
  | mk (before : Blanks) (v : Spelling) (after : Blanks)

/-- The items of a list that is not empty. -/
inductive Items
  | one (i : Item)
  | more (i : Item) (rest : Items)

/-- A field of an object: a name, the colon between two gaps, and a value. -/
inductive Field
  | mk (before : Blanks) (name : List Piece) (gap inner : Blanks) (v : Spelling) (after : Blanks)

inductive Fields
  | one (m : Field)
  | more (m : Field) (rest : Fields)

end

mutual

/-- The text of a spelling, with its blanks rewritten by `f`. -/
def Spelling.textWith (f : List Char → List Char) : Spelling → List Char
  | .null => ['n', 'u', 'l', 'l']
  | .bool true => ['t', 'r', 'u', 'e']
  | .bool false => ['f', 'a', 'l', 's', 'e']
  | .number n => n.text
  | .str s => stringText s
  | .emptyList gap => '[' :: (f gap.chars ++ [']'])
  | .list items => '[' :: (items.textWith f ++ [']'])
  | .emptyObject gap => '\x7b' :: (f gap.chars ++ ['\x7d'])
  | .object fields => '\x7b' :: (fields.textWith f ++ ['\x7d'])

def Item.textWith (f : List Char → List Char) : Item → List Char
  | .mk before v after => f before.chars ++ (v.textWith f ++ f after.chars)

def Items.textWith (f : List Char → List Char) : Items → List Char
  | .one i => i.textWith f
  | .more i rest => i.textWith f ++ ',' :: rest.textWith f

def Field.textWith (f : List Char → List Char) : Field → List Char
  | .mk before name gap inner v after =>
    f before.chars ++ (stringText name ++ (f gap.chars ++ ':' :: (f inner.chars ++
      (v.textWith f ++ f after.chars))))

def Fields.textWith (f : List Char → List Char) : Fields → List Char
  | .one m => m.textWith f
  | .more m rest => m.textWith f ++ ',' :: rest.textWith f

end

mutual

/-- The document that a spelling denotes. -/
def Spelling.value : Spelling → Document
  | .null => .null
  | .bool b => .bool b
  | .number n => n.value
  | .str s => .text (stringValue s)
  | .emptyList _ => .list []
  | .list items => .list items.values
  | .emptyObject _ => .mapping []
  | .object fields => .mapping fields.values

def Item.value : Item → Document
  | .mk _ v _ => v.value

def Items.values : Items → List Document
  | .one i => [i.value]
  | .more i rest => i.value :: rest.values

def Field.value : Field → String × Document
  | .mk _ name _ _ v _ => (stringValue name, v.value)

def Fields.values : Fields → List (String × Document)
  | .one m => [m.value]
  | .more m rest => m.value :: rest.values

end

/-- A whole text: a value with blanks around it. -/
structure Source where
  before : Blanks
  root : Spelling
  after : Blanks

namespace Source

def textWith (f : List Char → List Char) (t : Source) : List Char :=
  f t.before.chars ++ (t.root.textWith f ++ f t.after.chars)

def chars (t : Source) : List Char := t.textWith id

def text (t : Source) : String := String.ofList t.chars

def value (t : Source) : Document := t.root.value

end Source

/-! ### Line ends -/

theorem unifyLineEnds_of_notMem {s : List Char} (h : '\r' ∉ s) (rest : List Char) :
    unifyLineEnds (s ++ rest) = s ++ unifyLineEnds rest := by
  induction s with
  | nil => rfl
  | cons c s ih =>
    rw [List.mem_cons, not_or] at h
    have hc : c ≠ '\r' := Ne.symm h.1
    rw [List.cons_append, unifyLineEnds, ih h.2]
    · rfl
    · rintro tail rfl
      exact absurd rfl hc
    · rintro rfl
      exact absurd rfl hc

/-- Two parts of a text have line ends of their own unless the second one starts with a line feed. -/
theorem unifyLineEnds_append {s rest : List Char} (h : rest.head? ≠ some '\n') :
    unifyLineEnds (s ++ rest) = unifyLineEnds s ++ unifyLineEnds rest := by
  fun_induction unifyLineEnds s with
  | case1 => rfl
  | case2 s ih => simp [unifyLineEnds, ih]
  | case3 s hs ih =>
    have hnext : ∀ tail, s ++ rest ≠ '\n' :: tail := by
      intro tail heq
      cases s with
      | nil => exact h (by rw [← List.nil_append rest, heq, List.head?_cons])
      | cons x s => exact hs s (by rw [(List.cons.inj heq).1])
    rw [List.cons_append, unifyLineEnds, ih]
    · rfl
    · exact hnext
  | case4 c s hpair hreturn ih =>
    have hc : c ≠ '\r' := hreturn
    rw [List.cons_append, unifyLineEnds, ih]
    · rfl
    · rintro tail rfl
      exact absurd rfl hc
    · exact hreturn

theorem unifyLineEnds_cons {c : Char} (h : c ≠ '\r') (rest : List Char) :
    unifyLineEnds (c :: rest) = c :: unifyLineEnds rest :=
  unifyLineEnds_of_notMem (s := [c]) (by simpa using Ne.symm h) rest

/-! ### The characters of strings and numbers -/

theorem toNat_of_hexValue? {c : Char} (h : (hexValue? c).isSome) : 48 ≤ c.toNat ∧ c.toNat ≤ 102 := by
  unfold hexValue? at h
  split_ifs at h with h1 h2 h3
  · exact ⟨UInt32.le_iff_toNat_le.mp h1.1, le_trans (UInt32.le_iff_toNat_le.mp h1.2) (by decide)⟩
  · exact ⟨le_trans (by decide) (UInt32.le_iff_toNat_le.mp h2.1), UInt32.le_iff_toNat_le.mp h2.2⟩
  · exact ⟨le_trans (by decide) (UInt32.le_iff_toNat_le.mp h3.1),
      le_trans (UInt32.le_iff_toNat_le.mp h3.2) (by decide)⟩
  · simp at h

/-- A unit is four hexadecimal digits. -/
theorem readUnit_eq_some {s : List Char} {n : Nat} (h : readUnit s = some (n, [])) :
    ∃ a b c d w x y z, s = [a, b, c, d] ∧ hexValue? a = some w ∧ hexValue? b = some x ∧
      hexValue? c = some y ∧ hexValue? d = some z ∧ n = ((w * 16 + x) * 16 + y) * 16 + z := by
  match s, h with
  | a :: b :: c :: d :: rest, h =>
    simp only [readUnit, Option.bind_eq_bind, Option.bind_eq_some_iff, Option.pure_def,
      Option.some.injEq, Prod.mk.injEq] at h
    obtain ⟨w, hw, x, hx, y, hy, z, hz, rfl, rfl⟩ := h
    exact ⟨a, b, c, d, w, x, y, z, rfl, hw, hx, hy, hz, rfl⟩

theorem toNat_of_mem_pieceText {p : Piece} {c : Char} (h : c ∈ p.text) : 32 ≤ c.toNat := by
  cases p with
  | raw x control quote escape =>
    obtain rfl := List.mem_singleton.mp h
    exact control
  | short letter x listed =>
    have hletter : ∀ q ∈ shortEscapes, 32 ≤ q.1.toNat := by decide
    simp only [Piece.text, List.mem_cons, List.not_mem_nil, or_false] at h
    rcases h with rfl | rfl
    · decide
    · exact hletter _ listed
  | numbered digits code read whole =>
    obtain ⟨a, b, c', d, w, x, y, z, rfl, ha, hb, hc, hd, -⟩ := readUnit_eq_some read
    have hhex : ∀ q ∈ [a, b, c', d], 48 ≤ q.toNat := by
      intro q hq
      simp only [List.mem_cons, List.not_mem_nil, or_false] at hq
      rcases hq with rfl | rfl | rfl | rfl
      · exact (toNat_of_hexValue? (by rw [ha]; rfl)).1
      · exact (toNat_of_hexValue? (by rw [hb]; rfl)).1
      · exact (toNat_of_hexValue? (by rw [hc]; rfl)).1
      · exact (toNat_of_hexValue? (by rw [hd]; rfl)).1
    rw [Piece.text, List.mem_cons, List.mem_cons] at h
    rcases h with rfl | rfl | h
    · decide
    · decide
    · exact le_trans (by decide) (hhex c h)

theorem toNat_of_mem_stringText {s : List Piece} {c : Char} (h : c ∈ stringText s) :
    32 ≤ c.toNat := by
  rw [stringText, List.mem_cons, List.mem_append, List.mem_singleton] at h
  rcases h with rfl | h | rfl
  · decide
  · obtain ⟨p, -, hp⟩ := List.mem_flatMap.mp h
    exact toNat_of_mem_pieceText hp
  · decide

/-- The signs that a number is written with, besides digits. -/
def numberMarks : List Char := ['-', '+', '.', 'e', 'E']

theorem mem_exponentText {e : Exponent} {c : Char} (h : c ∈ e.text) :
    c.isDigit ∨ c ∈ numberMarks := by
  obtain ⟨capital, sign, digits⟩ := e
  rw [Exponent.text, List.mem_cons, List.mem_append] at h
  rcases h with rfl | h | h
  · refine Or.inr ?_
    dsimp only
    split_ifs <;> decide
  · rcases sign with _ | _ | _
    · cases h
    · exact Or.inr (by rw [List.mem_singleton.mp h]; decide)
    · exact Or.inr (by rw [List.mem_singleton.mp h]; decide)
  · exact Or.inl (digits.digit c h)

theorem mem_numberText {n : Number} {c : Char} (h : c ∈ n.text) : c.isDigit ∨ c ∈ numberMarks := by
  rw [Number.text, List.mem_append, List.mem_append, List.mem_append] at h
  rcases h with ((h | h) | h) | h
  · split_ifs at h
    · exact Or.inr (by rw [List.mem_singleton.mp h]; decide)
    · cases h
  · exact Or.inl (Nat.isDigit_of_mem_toDigits (by decide) (by decide) h)
  · cases hf : n.fraction with
    | none => simp [hf] at h
    | some d =>
      rw [hf, List.mem_cons] at h
      rcases h with rfl | h
      · exact Or.inr (by decide)
      · exact Or.inl (d.digit c h)
  · cases he : n.exponent with
    | none => simp [he] at h
    | some e =>
      rw [he] at h
      exact mem_exponentText h

theorem toNat_of_mem_numberText {n : Number} {c : Char} (h : c ∈ n.text) :
    43 ≤ c.toNat ∧ c.toNat ≤ 101 := by
  rcases mem_numberText h with h | h
  · simp only [Char.isDigit, Bool.and_eq_true, decide_eq_true_eq, ge_iff_le] at h
    exact ⟨le_trans (by decide) (UInt32.le_iff_toNat_le.mp h.1),
      le_trans (UInt32.le_iff_toNat_le.mp h.2) (by decide)⟩
  · have hmarks : ∀ x ∈ numberMarks, 43 ≤ x.toNat ∧ x.toNat ≤ 101 := by decide
    exact hmarks c h

/-- A number starts with a minus sign or a digit. -/
theorem numberText_eq (n : Number) :
    ∃ c s, n.text = c :: s ∧ (c.isDigit ∨ c = '-' ∧ ∃ d s', s = d :: s' ∧ d.isDigit) := by
  obtain ⟨d, ds, hd⟩ := List.exists_cons_of_ne_nil (Nat.toDigits_ne_nil (n := n.whole) (b := 10))
  have hdigit : d.isDigit :=
    Nat.isDigit_of_mem_toDigits (by decide) (by decide) (hd ▸ List.mem_cons_self)
  unfold Number.text
  rw [hd]
  cases n.negative with
  | false => exact ⟨d, _, rfl, Or.inl hdigit⟩
  | true => exact ⟨'-', _, rfl, Or.inr ⟨rfl, d, _, rfl, hdigit⟩⟩

/-- A value starts with a visible ASCII character. -/
theorem textWith_eq_cons (f : List Char → List Char) (x : Spelling) :
    ∃ c s, x.textWith f = c :: s ∧ 33 ≤ c.toNat ∧ c.toNat < 127 := by
  cases x with
  | null => exact ⟨_, _, rfl, by decide⟩
  | bool b => cases b <;> exact ⟨_, _, rfl, by decide⟩
  | number n =>
    obtain ⟨c, s, hn, -⟩ := numberText_eq n
    have hc := toNat_of_mem_numberText (n := n) (c := c) (by rw [hn]; exact List.mem_cons_self)
    exact ⟨c, s, by rw [Spelling.textWith, hn], by omega⟩
  | str s => exact ⟨_, _, rfl, by decide⟩
  | emptyList gap => exact ⟨_, _, rfl, by decide⟩
  | list items => exact ⟨_, _, rfl, by decide⟩
  | emptyObject gap => exact ⟨_, _, rfl, by decide⟩
  | object fields => exact ⟨_, _, rfl, by decide⟩

/-! ### Line ends of a text -/

theorem return_notMem {s : List Char} (h : ∀ c ∈ s, 32 ≤ c.toNat) : '\r' ∉ s := fun hmem =>
  absurd (h _ hmem) (by decide)

theorem head?_textWith_append (f : List Char → List Char) (x : Spelling) (rest : List Char) :
    (x.textWith f ++ rest).head? ≠ some '\n' := by
  obtain ⟨c, s, hx, hc, -⟩ := textWith_eq_cons f x
  rw [hx, List.cons_append, List.head?_cons]
  intro heq
  obtain rfl := Option.some.inj heq
  exact absurd hc (by decide)

mutual

theorem unifyLineEnds_spelling : ∀ (x : Spelling) (rest : List Char),
    unifyLineEnds (x.textWith id ++ rest) = x.textWith unifyLineEnds ++ unifyLineEnds rest
  | .null, rest => unifyLineEnds_of_notMem (by decide) rest
  | .bool true, rest => unifyLineEnds_of_notMem (by decide) rest
  | .bool false, rest => unifyLineEnds_of_notMem (by decide) rest
  | .number n, rest => by
    refine unifyLineEnds_of_notMem (return_notMem fun c hc => ?_) rest
    exact le_trans (by decide) (toNat_of_mem_numberText hc).1
  | .str s, rest =>
    unifyLineEnds_of_notMem (return_notMem fun _ => toNat_of_mem_stringText) rest
  | .emptyList gap, rest => by
    simp only [Spelling.textWith, List.cons_append, List.append_assoc, List.nil_append, id]
    rw [unifyLineEnds_cons (by decide), unifyLineEnds_append (by simp),
      unifyLineEnds_cons (by decide)]
  | .list items, rest => by
    simp only [Spelling.textWith, List.cons_append, List.append_assoc, List.nil_append]
    rw [unifyLineEnds_cons (by decide), unifyLineEnds_items items (by simp),
      unifyLineEnds_cons (by decide)]
  | .emptyObject gap, rest => by
    simp only [Spelling.textWith, List.cons_append, List.append_assoc, List.nil_append, id]
    rw [unifyLineEnds_cons (by decide), unifyLineEnds_append (by simp),
      unifyLineEnds_cons (by decide)]
  | .object fields, rest => by
    simp only [Spelling.textWith, List.cons_append, List.append_assoc, List.nil_append]
    rw [unifyLineEnds_cons (by decide), unifyLineEnds_fields fields (by simp),
      unifyLineEnds_cons (by decide)]

theorem unifyLineEnds_item : ∀ (i : Item) {rest : List Char}, rest.head? ≠ some '\n' →
    unifyLineEnds (i.textWith id ++ rest) = i.textWith unifyLineEnds ++ unifyLineEnds rest
  | .mk before v after, rest, h => by
    simp only [Item.textWith, List.append_assoc, id]
    rw [unifyLineEnds_append (head?_textWith_append id v _), unifyLineEnds_spelling v,
      unifyLineEnds_append h]

theorem unifyLineEnds_items : ∀ (is : Items) {rest : List Char}, rest.head? ≠ some '\n' →
    unifyLineEnds (is.textWith id ++ rest) = is.textWith unifyLineEnds ++ unifyLineEnds rest
  | .one i, rest, h => unifyLineEnds_item i h
  | .more i is, rest, h => by
    simp only [Items.textWith, List.cons_append, List.append_assoc]
    rw [unifyLineEnds_item i (by simp), unifyLineEnds_cons (by decide), unifyLineEnds_items is h]

theorem unifyLineEnds_field : ∀ (m : Field) {rest : List Char}, rest.head? ≠ some '\n' →
    unifyLineEnds (m.textWith id ++ rest) = m.textWith unifyLineEnds ++ unifyLineEnds rest
  | .mk before name gap inner v after, rest, h => by
    have hname : ∀ rest', unifyLineEnds (stringText name ++ rest') =
        stringText name ++ unifyLineEnds rest' :=
      unifyLineEnds_of_notMem (return_notMem fun _ => toNat_of_mem_stringText)
    have hquote : ∀ rest', (stringText name ++ rest').head? ≠ some '\n' := by
      intro rest'
      simp only [stringText, List.cons_append, List.head?_cons]
      decide
    simp only [Field.textWith, List.append_assoc, List.cons_append, id]
    rw [unifyLineEnds_append (hquote _), hname, unifyLineEnds_append (by simp),
      unifyLineEnds_cons (by decide), unifyLineEnds_append (head?_textWith_append id v _),
      unifyLineEnds_spelling v, unifyLineEnds_append h]

theorem unifyLineEnds_fields : ∀ (ms : Fields) {rest : List Char}, rest.head? ≠ some '\n' →
    unifyLineEnds (ms.textWith id ++ rest) = ms.textWith unifyLineEnds ++ unifyLineEnds rest
  | .one m, rest, h => unifyLineEnds_field m h
  | .more m ms, rest, h => by
    simp only [Fields.textWith, List.cons_append, List.append_assoc]
    rw [unifyLineEnds_field m (by simp), unifyLineEnds_cons (by decide), unifyLineEnds_fields ms h]

end

/-- Writing all line ends of a text alike rewrites its blanks and nothing else. -/
theorem unifyLineEnds_chars (t : Source) : unifyLineEnds t.chars = t.textWith unifyLineEnds := by
  have hafter := unifyLineEnds_spelling t.root t.after.chars
  have hbefore := head?_textWith_append id t.root t.after.chars
  simp only [Source.chars, Source.textWith, id]
  rw [unifyLineEnds_append hbefore, hafter]

end PatternLint.Json
