import PatternLint.Yaml.Token.Label

/-!
# Scalars

The four ways to write a text: plain, between single or double quotes, and as an indented block.
-/

namespace PatternLint.Yaml

open PatternLint.Text

/-- A text and the place behind it. -/
abbrev Read := List Char × Cursor

/-! ## Folding -/

/-- What a line end and the empty lines after it become: a single line feed is folded into a space, and
the empty lines stay. -/
def folded (first : Char) (breaks : List Char) : List Char :=
  if first != '\n' then first :: breaks
  else if breaks.isEmpty then [' ']
  else breaks

/-! ## Plain scalars -/

/-- Whether a colon before this character ends a key. -/
def endsKey (flow : Bool) (c : Option Char) : Bool :=
  endsWord c || (flow && c.any (",[]\x7b\x7d".toList.contains ·))

/-- The characters of a plain scalar up to the next blank or indicator. -/
def plainRun (flow : Bool) : List Char → List Char
  | [] => []
  | c :: rest =>
    if isSpace c || isBreak c || (c == ':' && endsKey flow rest.head?) ||
        (flow && ",?[]\x7b\x7d".toList.contains c) then []
    else c :: plainRun flow rest

/-- Further line ends, with the spaces between them; none if a document starts or ends here. -/
def plainBreaks : Nat → Cursor → Option Read
  | 0, c => some ([], c)
  | fuel + 1, c =>
    if c.atSeparator then none
    else
      let c := c.skipWhile (· == ' ')
      match c.lineBreak? with
      | none => some ([], c)
      | some (b, c) => (plainBreaks fuel c).map fun (more, c) => (b :: more, c)

/-- The blanks after a run of a plain scalar, and whether a line ended among them. -/
structure PlainGap where
  text : List Char
  cursor : Cursor
  newLine : Bool

def plainGap (c : Cursor) : PlainGap :=
  let (spaces, c) := c.span (· == ' ')
  match c.lineBreak? with
  | none => ⟨spaces, c, false⟩
  | some (first, c) =>
    match plainBreaks (c.rest.length + 1) c with
    | none => ⟨[], c, true⟩
    | some (breaks, c) => ⟨folded first breaks, c, true⟩

structure PlainScalar where
  text : List Char
  cursor : Cursor
  /-- Whether the scalar was followed by a line end, so that a key may come next. -/
  newLine : Bool

/-- A plain scalar; `gap` are the blanks before this run. -/
def plainFrom (flow : Bool) (margin : Nat) : Nat → PlainGap → PlainScalar
  | 0, gap => ⟨[], gap.cursor, gap.newLine⟩
  | fuel + 1, gap =>
    let c := gap.cursor
    let run := plainRun flow c.rest
    if c.peek 0 == some '#' || run.isEmpty then ⟨[], c, gap.newLine⟩
    else
      let next := plainGap (c.skip run.length)
      let ended := next.text.isEmpty || next.cursor.peek 0 == some '#' ||
        (!flow && next.cursor.column < margin)
      if ended then ⟨gap.text ++ run, next.cursor, next.newLine⟩
      else
        let more := plainFrom flow margin fuel next
        ⟨gap.text ++ run ++ more.text, more.cursor, more.newLine⟩

def plainScalar (flow : Bool) (margin : Nat) (c : Cursor) : PlainScalar :=
  plainFrom flow margin (c.rest.length + 1) ⟨[], c, false⟩

/-! ## Quoted scalars -/

/-- What the letter after a backslash stands for. -/
def shortEscape? (c : Char) : Option Char :=
  match c with
  | '0' => some (Char.ofNat 0)
  | 'a' => some (Char.ofNat 7)
  | 'b' => some (Char.ofNat 8)
  | 't' | '\t' => some '\t'
  | 'n' => some '\n'
  | 'v' => some (Char.ofNat 11)
  | 'f' => some (Char.ofNat 12)
  | 'r' => some '\r'
  | 'e' => some (Char.ofNat 27)
  | ' ' => some ' '
  | '\\' => some '\\'
  | '/' => some '/'
  | 'N' => some (Char.ofNat 0x85)
  | '_' => some (Char.ofNat 0xA0)
  | 'L' => some (Char.ofNat 0x2028)
  | 'P' => some (Char.ofNat 0x2029)
  | c => if c == doubleQuote then some c else none

/-- The number of digits after the letter of a numeric escape. -/
def escapeDigits? : Char → Option Nat
  | 'x' => some 2
  | 'u' => some 4
  | 'U' => some 8
  | _ => none

def charOfCode (n : Nat) : Except Fault Char :=
  if n < 0x110000 then .ok (if n.isValidChar then Char.ofNat n else Char.ofNat 0xFFFD)
  else if n < 0x80000000 then .error .beyondUnicode
  else .error .beyondWord

/-- The empty lines inside a quoted scalar, without the blanks around them. -/
def quotedBreaks : Nat → Cursor → Except Fault Read
  | 0, c => .ok ([], c)
  | fuel + 1, c =>
    if c.atSeparator then .error .malformed
    else
      let c := c.skipWhile isSpace
      match c.lineBreak? with
      | none => .ok ([], c)
      | some (b, c) => do
        let (more, c) ← quotedBreaks fuel c
        .ok (b :: more, c)

/-- What a backslash in a double quoted scalar stands for; the place is behind the backslash. -/
def escaped (c : Cursor) : Except Fault Read :=
  match c.peek 0 with
  | none => .error .malformed
  | some x =>
    match shortEscape? x, escapeDigits? x with
    | some y, _ => .ok ([y], c.next)
    | none, some count => do
      let (n, c) ← hexCode count c.next
      .ok ([← charOfCode n], c)
    | none, none =>
      match c.lineBreak? with
      | some (_, c) => quotedBreaks (c.rest.length + 1) c
      | none => .error .malformed

/-- The characters of a quoted scalar up to the next blank, line end or closing quote. -/
def quotedRun (double : Bool) : Nat → Cursor → Except Fault Read
  | 0, c => .ok ([], c)
  | fuel + 1, c =>
    match c.peek 0 with
    | none => .ok ([], c)
    | some x =>
      if isSpace x || isBreak x then .ok ([], c)
      else if double && x == '\\' then do
        let (s, c) ← escaped c.next
        let (more, c) ← quotedRun double fuel c
        .ok (s ++ more, c)
      else if !double && x == singleQuote && c.peek 1 == some singleQuote then do
        let (more, c) ← quotedRun double fuel (c.skip 2)
        .ok (x :: more, c)
      else if x == (if double then doubleQuote else singleQuote) then .ok ([], c)
      else do
        let (more, c) ← quotedRun double fuel c.next
        .ok (x :: more, c)

/-- The blanks inside a quoted scalar: kept in a line, folded at its end. -/
def quotedGap (c : Cursor) : Except Fault Read :=
  let (spaces, c) := c.span isSpace
  match c.peek 0 with
  | none => .error .malformed
  | some _ =>
    match c.lineBreak? with
    | none => .ok (spaces, c)
    | some (first, c) => do
      let (breaks, c) ← quotedBreaks (c.rest.length + 1) c
      .ok (folded first breaks, c)

/-- The content of a quoted scalar and the place behind its closing quote. -/
def quotedFrom (double : Bool) : Nat → Cursor → Except Fault Read
  | 0, _ => .error .malformed
  | fuel + 1, c => do
    let (run, c) ← quotedRun double (c.rest.length + 1) c
    if c.peek 0 == some (if double then doubleQuote else singleQuote) then .ok (run, c.next)
    else
      let (gap, c) ← quotedGap c
      let (more, c) ← quotedFrom double fuel c
      .ok (run ++ gap ++ more, c)

def quotedScalar (double : Bool) (c : Cursor) : Except Fault Read :=
  quotedFrom double (c.rest.length + 1) c.next

/-! ## Block scalars -/

/-- What happens to the line ends at the end of a block. -/
inductive Chomping
  | strip
  | clip
  | keep
  deriving DecidableEq, Repr

structure BlockHeader where
  chomping : Chomping
  /-- The indentation, counted from the margin, if it is given. -/
  increment : Option Nat
  cursor : Cursor

def chomping? : Option Char → Option Chomping
  | some '+' => some .keep
  | some '-' => some .strip
  | _ => none

/-- An indentation indicator: a digit, but not zero. -/
def increment (c : Cursor) : Except Fault (Option Nat × Cursor) :=
  match c.peek 0 with
  | none => .ok (none, c)
  | some x =>
    if x == '0' then .error .malformed
    else if isAsciiDigit x.toNat then .ok (some (x.toNat - 48), c.next)
    else .ok (none, c)

/-- The indicators of a block scalar and the rest of their line. -/
def blockHeader (c : Cursor) : Except Fault BlockHeader := do
  let finish (chomping : Option Chomping) (increment : Option Nat) (c : Cursor) :
      Except Fault BlockHeader := do
    if endsIndicator (c.peek 0) then
      .ok ⟨chomping.getD .clip, increment, ← restOfLine c⟩
    else .error .malformed
  match chomping? (c.peek 0) with
  | some chomping => do
    let (n, c) ← increment c.next
    finish (some chomping) n c
  | none => do
    let (n, c) ← increment c
    match n, chomping? (c.peek 0) with
    | some n, some chomping => finish (some chomping) (some n) c.next
    | n, _ => finish none n c

/-- Empty lines before the first line of a block, and the widest indentation among them and it. -/
def leadingBreaks : Nat → Nat → Cursor → List Char × Nat × Cursor
  | 0, widest, c => ([], widest, c)
  | fuel + 1, widest, c =>
    let spaced := c.skipWhile (· == ' ')
    let widest := if spaced.index = c.index then widest else max widest spaced.column
    match spaced.lineBreak? with
    | none => ([], widest, spaced)
    | some (b, c) =>
      let (more, widest, c) := leadingBreaks fuel widest c
      (b :: more, widest, c)

/-- Goes past at most the spaces of the indentation. -/
def indented (indent : Nat) (c : Cursor) : Cursor :=
  c.skip (min (indent - c.column) (c.rest.takeWhile (· == ' ')).length)

/-- Empty lines of a block. -/
def blockBreaks (indent : Nat) : Nat → Cursor → Read
  | 0, c => ([], c)
  | fuel + 1, c =>
    let c := indented indent c
    match c.lineBreak? with
    | none => ([], c)
    | some (b, c) =>
      let (more, c) := blockBreaks indent fuel c
      (b :: more, c)

/-- Whether a line of the block stands here. -/
def inBlock (indent : Nat) (c : Cursor) : Bool := c.column == indent && !c.rest.isEmpty

/-- The line end between two lines of a block. -/
def blockJoin (fold leading : Bool) (lineBreak : List Char) (breaks : List Char) (c : Cursor) :
    List Char :=
  if fold && lineBreak == ['\n'] && leading && !(c.peek 0).any isSpace then
    if breaks.isEmpty then [' '] else []
  else lineBreak

/-- The lines of a block from here on; `breaks` are the empty lines before. -/
def blockLines (fold : Bool) (chomping : Chomping) (indent : Nat) :
    Nat → List Char → Cursor → Read
  | 0, _, c => ([], c)
  | fuel + 1, breaks, c =>
    let leading := !(c.peek 0).any isSpace
    let (line, c) := c.span fun x => !isBreak x
    let (lineBreak, c) : Read :=
      match c.lineBreak? with
      | none => ([], c)
      | some (b, c) => ([b], c)
    let (after, c) := blockBreaks indent (c.rest.length + 1) c
    if inBlock indent c then
      let (more, stop) := blockLines fold chomping indent fuel after c
      (breaks ++ line ++ blockJoin fold leading lineBreak after c ++ more, stop)
    else
      let tail :=
        match chomping with
        | .strip => []
        | .clip => lineBreak
        | .keep => lineBreak ++ after
      (breaks ++ line ++ tail, c)

/-- A block scalar; `margin` is the least column of its lines. -/
def blockScalar (fold : Bool) (margin : Nat) (c : Cursor) : Except Fault Read := do
  let header ← blockHeader c.next
  let c := header.cursor
  let least := max margin 1
  let (breaks, indent, c) : List Char × Nat × Cursor :=
    match header.increment with
    | none =>
      let (breaks, widest, c) := leadingBreaks (c.rest.length + 1) 0 c
      (breaks, max least widest, c)
    | some n =>
      let indent := least + n - 1
      let (breaks, c) := blockBreaks indent (c.rest.length + 1) c
      (breaks, indent, c)
  if inBlock indent c then
    .ok (blockLines fold header.chomping indent (c.rest.length + 1) breaks c)
  else
    .ok (if header.chomping = .keep then breaks else [], c)

end PatternLint.Yaml
