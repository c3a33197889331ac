import PatternLint.Layout.Wrap

/-!
# Tables

A titled table with ruled cells, or the bare rows of one.  Columns are as wide as their widest line; if the
table is too wide, the widest columns give way first, evenly, and cells are wrapped.
-/

namespace PatternLint.Layout

open PatternLint.Text

structure Column where
  header : String
  /-- The least number of cells, padding apart; none in particular if it is 0. -/
  minWidth : Nat

structure Table where
  title : List Char
  columns : List Column
  rows : List (List String)

/-- The quotient rounded to the nearest natural number, a half to the even neighbour. -/
def roundDiv (a b : Nat) : Nat :=
  let q := a / b
  let r := a % b
  if 2 * r < b then q
  else if b < 2 * r then q + 1
  else if q % 2 = 0 then q else q + 1

/-- The cells that columns take together. -/
def total (ws : List Nat) : Nat := ws.foldl (· + ·) 0

/-- Takes `rest` cells from `count` columns of width `widest`, at most `most` from each. -/
def reduceWidest (widest most : Nat) : Nat → Nat → List Nat → List Nat
  | _, _, [] => []
  | rest, count, w :: ws =>
    if w = widest then
      let k := min most (roundDiv rest count)
      (w - k) :: reduceWidest widest most (rest - k) (count - 1) ws
    else w :: reduceWidest widest most rest count ws

/-- Narrows the widest columns until the widths add up to at most `limit`. -/
def collapse (limit : Nat) : Nat → List Nat → List Nat
  | 0, ws => ws
  | fuel + 1, ws =>
    let excess := total ws - limit
    if excess = 0 then ws
    else
      let widest := ws.foldl max 0
      let second := (ws.filter (· ≠ widest)).foldl max 0
      let most := min excess (widest - second)
      if most = 0 then ws
      else collapse limit fuel (reduceWidest widest most excess (ws.count widest) ws)

/-- The cells of the widest line of a text. -/
def naturalWidth (s : String) : Nat :=
  ((splitLines (visible s.toList)).map cells).foldl max 0

namespace Table

/-- The texts of a column, its header first. -/
def columnTexts (t : Table) (i : Nat) (c : Column) : List String :=
  c.header :: t.rows.map fun row => row.getD i ""

/-- The width of a column, padding included, if it may take at most `limit` cells. -/
def measure (t : Table) (limit i : Nat) (c : Column) : Nat :=
  let widest := ((t.columnTexts i c).map naturalWidth).foldl max 0
  let free := min (widest + 2) limit
  if limit = 0 then 0 else if c.minWidth = 0 then free else max free (c.minWidth + 2)

/-- The widths of the columns if they may take at most `limit` cells together. -/
def widths (t : Table) (limit : Nat) : List Nat :=
  let natural := t.columns.mapIdx fun i c => max 1 (t.measure limit i c)
  if total natural ≤ limit then natural
  else
    let narrowed := collapse limit (total natural - limit) natural
    t.columns.mapIdx fun i c => t.measure (narrowed.getD i 0) i c

/-- A line that rules the table off. -/
def rule (widths : List Nat) (left fill between right : Char) : List Char :=
  let pieces := widths.map fun w => List.replicate w fill
  left :: ((List.intersperse [between] pieces).flatten ++ [right])

/-- A line of a cell between two blanks; a cell can have fewer lines than its row. -/
def cell (w : Nat) : Option (List Char) → List Char
  | some line => ' ' :: (fit (w - 2) line ++ [' '])
  | none => blanks w

/-- The cells of a row, line by line. -/
def cellLines (widths : List Nat) (row : List String) : List (List (List Char)) :=
  let wrapped := widths.mapIdx fun i w => inCells (w - 2) (wrap (w - 2) .ellipsis (row.getD i "").toList)
  let height := (wrapped.map List.length).foldl max 1
  (List.range height).map fun k => List.zipWith (fun w lines => cell w lines[k]?) widths wrapped

/-- The lines of a row between edges. -/
def rowLines (widths : List Nat) (edge : Char) (row : List String) : List (List Char) :=
  (cellLines widths row).map fun cells =>
    edge :: ((List.intersperse [edge] cells).flatten ++ [edge])

/-- The title, centred. -/
def titleLines (t : Table) (width : Nat) : List (List Char) :=
  (wrap width .fold t.title).map fun line =>
    let line := stripRight line
    let free := width - cells line
    blanks (free / 2) ++ line ++ blanks (free - free / 2)

/-- The lines of a table of at most `width` cells. -/
def lines (t : Table) (width : Nat) : List (List Char) :=
  let ws := t.widths (width - (t.columns.length + 1))
  let full := total ws + (ws.length + 1)
  let body := t.rows.map (rowLines ws '│')
  t.titleLines full ++
    [rule ws '┏' '━' '┳' '┓'] ++
    rowLines ws '┃' (t.columns.map (·.header)) ++
    [rule ws '┡' '━' '╇' '┩'] ++
    (List.intersperse [rule ws '├' '─' '┼' '┤'] body).flatten ++
    [rule ws '└' '─' '┴' '┘']

/-- The lines of the rows alone, without rules. -/
def bareLines (t : Table) (width : Nat) : List (List Char) :=
  let ws := t.widths width
  t.rows.flatMap fun row => (cellLines ws row).map List.flatten

end Table

end PatternLint.Layout
