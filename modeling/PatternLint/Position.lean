/-!
# Lines and columns

A line ends after CR LF, after CR or after LF; the pair counts once.  `positionOf` finds the line and
column of an offset by walking over the line ends, `LineIndex.position` looks them up in a table of
line starts.  An offset between the two characters of CR LF is still on the earlier line.
-/

namespace PatternLint

/-- A line and a column, both counted from one. -/
structure Position where
  line : Nat
  column : Nat
  deriving DecidableEq, Repr

/-- An offset that lies outside a text of the given length. -/
structure OffsetError where
  offset : Int
  length : Nat
  deriving DecidableEq, Repr

namespace OffsetError

def message (e : OffsetError) : String :=
  "offset " ++ toString e.offset ++ " is outside the text (length " ++ toString e.length ++ ")"

end OffsetError

/-- The offsets just behind the line ends of a text that starts at offset `i`. -/
def lineEnds (i : Nat) : List Char → List Nat
  | [] => []
  | '\r' :: '\n' :: rest => (i + 2) :: lineEnds (i + 2) rest
  | c :: rest =>
    if c = '\r' ∨ c = '\n' then (i + 1) :: lineEnds (i + 1) rest else lineEnds (i + 1) rest

/-- The offset as a natural number, if it lies in a text of the given length. -/
def checkOffset (length : Nat) (offset : Int) : Except OffsetError Nat :=
  if 0 ≤ offset ∧ offset ≤ length then .ok offset.toNat else .error ⟨offset, length⟩

/-- Walks over the line ends up to `offset`; `line` starts at `start`. -/
def advance (offset : Nat) : Nat → Nat → List Nat → Position
  | line, start, [] => ⟨line, offset - start + 1⟩
  | line, start, e :: ends =>
    if offset < e then ⟨line, offset - start + 1⟩ else advance offset (line + 1) e ends

/-- The position of an offset. -/
def positionOf (text : List Char) (offset : Int) : Except OffsetError Position := do
  let o ← checkOffset text.length offset
  return advance o 1 0 (lineEnds 0 text)

/-- The starts of the lines of a text. -/
structure LineIndex where
  length : Nat
  starts : Array Nat

namespace LineIndex

def ofText (text : List Char) : LineIndex where
  length := text.length
  starts := (0 :: lineEnds 0 text).toArray

/-- The number of entries of a sorted table up to `hi` that are at most `x`, if the first `lo` are. -/
def countUpTo (starts : Array Nat) (x lo hi : Nat) : Nat :=
  if lo < hi then
    let mid := (lo + hi) / 2
    if x < starts.getD mid 0 then countUpTo starts x lo mid
    else countUpTo starts x (mid + 1) hi
  else lo
termination_by hi - lo

def position (index : LineIndex) (offset : Int) : Except OffsetError Position := do
  let o ← checkOffset index.length offset
  let line := countUpTo index.starts o 0 index.starts.size
  return ⟨line, o - index.starts.getD (line - 1) 0 + 1⟩

end LineIndex

end PatternLint
