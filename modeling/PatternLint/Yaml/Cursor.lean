/-!
# A place in a text

The characters that are still to be read and the position of the first of them.  Lines end at a line
feed, a carriage return, a next-line character or one of the two Unicode separators; CR LF is one end.
A byte order mark takes no column.
-/

namespace PatternLint.Yaml

def isBreak (c : Char) : Bool :=
  c == '\n' || c == '\r' || c.toNat == 0x85 || c.toNat == 0x2028 || c.toNat == 0x2029

/-- Blanks inside a line. -/
def isSpace (c : Char) : Bool := c == ' ' || c == '\t'

/-- Nothing, or a character that ends a word. -/
def endsWord : Option Char → Bool
  | none => true
  | some c => isSpace c || isBreak c

/-- Nothing, a space or a line end: what has to follow a tag or an indicator. -/
def endsIndicator : Option Char → Bool
  | none => true
  | some c => c == ' ' || isBreak c

/-- Nothing or a line end. -/
def endsLine : Option Char → Bool
  | none => true
  | some c => isBreak c

structure Cursor where
  rest : List Char
  index : Nat
  line : Nat
  column : Nat

namespace Cursor

def start (text : List Char) : Cursor := ⟨text, 0, 0, 0⟩

/-- The character `k` places ahead. -/
def peek (c : Cursor) (k : Nat) : Option Char := c.rest[k]?

/-- Goes past one character. -/
def next (c : Cursor) : Cursor :=
  match c.rest with
  | [] => c
  | x :: rest =>
    if isBreak x && !(x == '\r' && rest.head? == some '\n') then
      ⟨rest, c.index + 1, c.line + 1, 0⟩
    else if x.toNat == 0xFEFF then ⟨rest, c.index + 1, c.line, c.column⟩
    else ⟨rest, c.index + 1, c.line, c.column + 1⟩

def skip (c : Cursor) : Nat → Cursor
  | 0 => c
  | n + 1 => c.next.skip n

/-- The characters that satisfy a test, and the place behind them. -/
def span (c : Cursor) (p : Char → Bool) : List Char × Cursor :=
  let run := c.rest.takeWhile p
  (run, c.skip run.length)

def skipWhile (c : Cursor) (p : Char → Bool) : Cursor := (c.span p).2

/-- A line end, as the character it stands for, and the place behind it. -/
def lineBreak? (c : Cursor) : Option (Char × Cursor) :=
  match c.rest with
  | '\r' :: '\n' :: _ => some ('\n', c.skip 2)
  | x :: _ =>
    if x == '\n' || x == '\r' || x.toNat == 0x85 then some ('\n', c.next)
    else if isBreak x then some (x, c.next)
    else none
  | [] => none

/-- Whether three characters and then the end of a word come next. -/
def atMark (c : Cursor) (mark : List Char) : Bool :=
  c.rest.take 3 == mark && endsWord (c.peek 3)

def documentStart : List Char := ['-', '-', '-']

def documentEnd : List Char := ['.', '.', '.']

/-- Whether a line that starts or ends a document comes next. -/
def atSeparator (c : Cursor) : Bool := c.atMark documentStart || c.atMark documentEnd

/-- Goes past blanks and a comment. -/
def skipComment (c : Cursor) : Cursor :=
  let c := c.skipWhile (· == ' ')
  if c.peek 0 == some '#' then c.skipWhile fun x => !isBreak x else c

end Cursor

end PatternLint.Yaml
