/-!
# Blank characters

The white space of the Unicode standard together with the four information separators
U+001C to U+001F.  `strip` removes blanks at both ends of a text, `blankWords` are the words between them.
-/

namespace PatternLint.Text

def isBlank (n : Nat) : Bool :=
  (9 ≤ n && n ≤ 13) || (28 ≤ n && n ≤ 32) || n == 0x85 || n == 0xA0 || n == 0x1680 ||
    (0x2000 ≤ n && n ≤ 0x200A) || n == 0x2028 || n == 0x2029 || n == 0x202F || n == 0x205F ||
    n == 0x3000

/-- The blanks of ASCII, the information separators apart. -/
def isAsciiBlank (n : Nat) : Bool := (9 ≤ n && n ≤ 13) || n == 32

def Blank (c : Char) : Bool := isBlank c.toNat

def stripLeft (s : List Char) : List Char := s.dropWhile Blank

def stripRight (s : List Char) : List Char := (s.reverse.dropWhile Blank).reverse

/-- The text without the blanks at its two ends. -/
def strip (s : List Char) : List Char := stripRight (stripLeft s)

/-- The words of a text, the first of them behind its beginning `word`, of which the last character comes
first. -/
def blankWordsFrom (word : List Char) : List Char → List (List Char)
  | [] => if word.isEmpty then [] else [word.reverse]
  | c :: rest =>
    if Blank c then
      if word.isEmpty then blankWordsFrom [] rest else word.reverse :: blankWordsFrom [] rest
    else blankWordsFrom (c :: word) rest

/-- The words that blanks keep apart. -/
def blankWords (s : List Char) : List (List Char) := blankWordsFrom [] s

/-! ## Texts without blanks -/

theorem dropWhile_solid {s : List Char} (h : ∀ c ∈ s, Blank c = false) : s.dropWhile Blank = s := by
  cases s with
  | nil => rfl
  | cons c s => simp [h c List.mem_cons_self]

theorem stripRight_solid {s : List Char} (h : ∀ c ∈ s, Blank c = false) : stripRight s = s := by
  have hback : ∀ c ∈ s.reverse, Blank c = false := fun c hc => h c (List.mem_reverse.mp hc)
  rw [stripRight, dropWhile_solid hback, List.reverse_reverse]

theorem strip_solid {s : List Char} (h : ∀ c ∈ s, Blank c = false) : strip s = s := by
  rw [strip, stripLeft, dropWhile_solid h, stripRight_solid h]

theorem blankWordsFrom_solid {s : List Char} (h : ∀ c ∈ s, Blank c = false) (word : List Char)
    (hne : word.reverse ++ s ≠ []) : blankWordsFrom word s = [word.reverse ++ s] := by
  induction s generalizing word with
  | nil =>
    have hword : word.isEmpty = false := by
      cases word with
      | nil => exact absurd rfl hne
      | cons c word => rfl
    simp [blankWordsFrom, hword]
  | cons c s ih =>
    have hrest := ih (fun d hd => h d (List.mem_cons_of_mem c hd)) (c :: word) (by simp)
    simpa [blankWordsFrom, h c List.mem_cons_self] using hrest

/-- A text without blanks is one word. -/
theorem blankWords_solid {s : List Char} (h : ∀ c ∈ s, Blank c = false) (hne : s ≠ []) :
    blankWords s = [s] :=
  blankWordsFrom_solid h [] hne

end PatternLint.Text
