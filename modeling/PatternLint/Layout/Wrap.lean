import PatternLint.Text.Blank
import PatternLint.Text.Cells
import PatternLint.Text.Lines

/-!
# Wrapping text to a width

Widths are counted in cells.  A line is broken between words; a word that is wider than a whole line
is folded over several lines, or left to be cut, with an ellipsis at its end.
-/

namespace PatternLint.Layout

open PatternLint.Text

/-- What becomes of a word that is wider than a line. -/
inductive Overflow
  | fold
  | ellipsis
  deriving DecidableEq, Repr

/-- Characters that are never written out: bell, backspace, vertical tab, form feed, return. -/
def isSilent (c : Char) : Bool :=
  c.toNat == 7 || c.toNat == 8 || c.toNat == 11 || c.toNat == 12 || c.toNat == 13

def visible (s : List Char) : List Char := s.filter fun c => !isSilent c

def blanks (n : Nat) : List Char := List.replicate n ' '

/-- Replaces every tab of a line that starts at cell `pos` by blanks up to the next eighth cell. -/
def expandTabsFrom (pos : Nat) : List Char → List Char
  | [] => []
  | c :: rest =>
    if c = '\t' then
      let n := 8 - pos % 8
      blanks n ++ expandTabsFrom (pos + n) rest
    else c :: expandTabsFrom (pos + charCells c) rest

def expandTabs (line : List Char) : List Char := expandTabsFrom 0 line

/-- The first word, with the blanks around it, and what follows. -/
def nextWord? (s : List Char) : Option (List Char × List Char) :=
  let lead := s.takeWhile Blank
  let s := s.dropWhile Blank
  let body := s.takeWhile fun c => !Blank c
  let s := s.dropWhile fun c => !Blank c
  if body.isEmpty then none
  else some (lead ++ body ++ s.takeWhile Blank, s.dropWhile Blank)

/-- The words of a line, at most `fuel` of them. -/
def wordsUpTo : Nat → List Char → List (List Char)
  | 0, _ => []
  | fuel + 1, s =>
    match nextWord? s with
    | none => []
    | some (w, rest) => w :: wordsUpTo fuel rest

def words (line : List Char) : List (List Char) := wordsUpTo line.length line

/-- Cuts a text into pieces of at most `width` cells. `piece`, of `used` cells, is the piece under way,
its last character first. -/
def chopFrom (width used : Nat) (piece : List Char) : List Char → List (List Char)
  | [] => [piece.reverse]
  | c :: rest =>
    if width < used + charCells c then piece.reverse :: chopFrom width (charCells c) [c] rest
    else chopFrom width (used + charCells c) (c :: piece) rest

def chop (width : Nat) (s : List Char) : List (List Char) := chopFrom width 0 [] s

/-- The starts of pieces laid out one after the other from `start`. -/
def startsFrom (start : Nat) : List (List Char) → List Nat
  | [] => []
  | p :: ps => start :: startsFrom (start + p.length) ps

/-- The offsets where a line is broken.  The words start at `start`; `used` cells of the current line
are taken. -/
def breaksFrom (width : Nat) (overflow : Overflow) : Nat → Nat → List (List Char) → List Nat
  | _, _, [] => []
  | start, used, w :: rest =>
    let bare := cells (stripRight w)
    let next := start + w.length
    let here := if start = 0 then [] else [start]
    if bare + used ≤ width then breaksFrom width overflow next (used + cells w) rest
    else if width < bare then
      match overflow with
      | .fold =>
        let pieces := chop width w
        (startsFrom start pieces).filter (· ≠ 0) ++
          breaksFrom width overflow next (cells (pieces.getLastD [])) rest
      | .ellipsis => here ++ breaksFrom width overflow next (cells w) rest
    else if used = 0 then breaksFrom width overflow next used rest
    else here ++ breaksFrom width overflow next (cells w) rest

/-- Cuts a text at increasing offsets; `pos` is the offset of its start. -/
def cutAt (pos : Nat) (s : List Char) : List Nat → List (List Char)
  | [] => [s]
  | b :: bs => s.take (b - pos) :: cutAt b (s.drop (b - pos)) bs

/-- Removes blanks at the end, but no more than it takes to come down to `width` characters. -/
def trimEnd (width : Nat) (s : List Char) : List Char :=
  let tail := (s.reverse.takeWhile Blank).length
  s.take (s.length - min tail (s.length - width))

/-- The longest start of a text that takes at most `width` cells, and the cells it takes. -/
def takeCells (width : Nat) : List Char → List Char × Nat
  | [] => ([], 0)
  | c :: rest =>
    if charCells c ≤ width then
      let (taken, n) := takeCells (width - charCells c) rest
      (c :: taken, n + charCells c)
    else ([], 0)

/-- Cuts or fills a text to exactly `width` cells. -/
def fit (width : Nat) (s : List Char) : List Char :=
  let (taken, n) := takeCells width s
  taken ++ blanks (width - n)

/-- Cuts a text that is wider than `width`. -/
def truncate (width : Nat) (overflow : Overflow) (s : List Char) : List Char :=
  if cells s ≤ width then s
  else
    match overflow with
    | .fold => fit width s
    | .ellipsis => fit (width - 1) s ++ ['…']

/-- Lines where there are `width` cells for them; without cells there are no lines, and what does not fit is
cut. -/
def inCells (width : Nat) (lines : List (List Char)) : List (List Char) :=
  if width = 0 then [] else lines.map (truncate width .fold)

/-- Wraps one line. -/
def wrapLine (width : Nat) (overflow : Overflow) (line : List Char) : List (List Char) :=
  let line := expandTabs line
  let pieces := cutAt 0 line (breaksFrom width overflow 0 0 (words line))
  pieces.map fun p => truncate width overflow (trimEnd width p)

/-- Wraps a text. -/
def wrap (width : Nat) (overflow : Overflow) (s : List Char) : List (List Char) :=
  (splitOn '\n' (visible s)).flatMap (wrapLine width overflow)

end PatternLint.Layout
