import PatternLint.Yaml.Token.Scalar

/-!
# From text to tokens

The lexer turns indentation into tokens: a block collection starts at the column of its first entry
and ends where a line starts further left.  A key needs no mark of its own, so the lexer remembers
where one may have started; when the colon comes, it marks the key in the tokens it has found already.
-/

namespace PatternLint.Yaml

open PatternLint.Text

/-- Where a key may have started. -/
structure KeyStart where
  /-- The number of tokens before it. -/
  tokens : Nat
  /-- Whether nothing but a key can stand here. -/
  required : Bool
  index : Nat
  line : Nat
  column : Nat

structure Lexer where
  cursor : Cursor
  tokens : Array Token
  /-- One more than the column of the innermost block collection, or zero outside of all. -/
  margin : Nat
  /-- The margins of the collections around it. -/
  margins : List Nat
  /-- Whether a key may start here. -/
  keyAllowed : Bool
  /-- The possible key of each flow collection around this place, innermost first, and last the one of
  the block. -/
  keys : List (Option KeyStart)

namespace Lexer

def start (text : List Char) : Lexer := ⟨Cursor.start text, #[], 0, [], true, [none]⟩

/-- Whether the place is inside a flow collection. -/
def inFlow (l : Lexer) : Bool := 1 < l.keys.length

def push (l : Lexer) (t : Token) : Lexer := { l with tokens := l.tokens.push t }

def moveTo (l : Lexer) (c : Cursor) : Lexer := { l with cursor := c }

/-! ## Possible keys -/

/-- The farthest that a colon may be from the start of its key. -/
def keyReach : Nat := 1024

/-- Whether a key that started there can no longer be completed here. -/
def isStale (c : Cursor) (k : KeyStart) : Bool := k.line != c.line || keyReach < c.index - k.index

/-- Gives up the keys that can no longer be completed. -/
def dropStale (l : Lexer) : Except Fault Lexer :=
  let stale (k : Option KeyStart) : Bool := k.any (isStale l.cursor)
  if l.keys.any fun k => stale k && k.any (·.required) then .error .malformed
  else .ok { l with keys := l.keys.map fun k => if stale k then none else k }

def setKey (l : Lexer) (k : Option KeyStart) : Lexer := { l with keys := k :: l.keys.drop 1 }

def currentKey (l : Lexer) : Option KeyStart := l.keys.head?.join

/-- Gives up the possible key of this level. -/
def dropKey (l : Lexer) : Except Fault Lexer :=
  if l.currentKey.any (·.required) then .error .malformed else .ok (l.setKey none)

/-- Remembers that a key may start here. -/
def saveKey (l : Lexer) : Except Fault Lexer := do
  if !l.keyAllowed then .ok l
  else
    let l ← l.dropKey
    let c := l.cursor
    let required := !l.inFlow && l.margin == c.column + 1
    .ok (l.setKey (some ⟨l.tokens.size, required, c.index, c.line, c.column⟩))

/-! ## Indentation -/

/-- Ends the block collections whose margin lies right of `limit`. -/
def unwindTo (limit : Nat) : Nat → List Nat → Array Token → Nat × List Nat × Array Token
  | margin, [], tokens => (margin, [], tokens)
  | margin, outer :: margins, tokens =>
    if limit < margin then unwindTo limit outer margins (tokens.push .blockEnd)
    else (margin, outer :: margins, tokens)

/-- Ends the block collections that do not reach as far left as `limit`; a flow collection knows no
indentation. -/
def unwind (l : Lexer) (limit : Nat) : Lexer :=
  if l.inFlow then l
  else
    let (margin, margins, tokens) := unwindTo limit l.margin l.margins l.tokens
    { l with margin, margins, tokens }

/-- Opens a block collection at a column if that lies right of the margin; its token goes to `place`. -/
def indent (l : Lexer) (column place : Nat) (t : Token) : Lexer :=
  if l.margin ≤ column then
    { l with
      margin := column + 1
      margins := l.margin :: l.margins
      tokens := l.tokens.insertIdxIfInBounds place t }
  else l

/-! ## Tokens -/

/-- Goes to the start of the next token; in a block a new line may start with a key. -/
def skipBlanks : Nat → Lexer → Lexer
  | 0, l => l
  | fuel + 1, l =>
    let c := l.cursor.skipComment
    match c.lineBreak? with
    | none => l.moveTo c
    | some (_, c) => skipBlanks fuel { l with cursor := c, keyAllowed := l.keyAllowed || !l.inFlow }

/-- A token of `width` characters. -/
def mark (l : Lexer) (t : Token) (width : Nat) : Lexer := (l.push t).moveTo (l.cursor.skip width)

/-- A line that starts or ends a document. -/
def separator (l : Lexer) (t : Token) : Except Fault Lexer := do
  let l ← (l.unwind 0).dropKey
  .ok ({ l with keyAllowed := false }.mark t 3)

def directive (l : Lexer) : Except Fault Lexer := do
  let l ← (l.unwind 0).dropKey
  let (t, c) ← directiveToken l.cursor
  .ok (({ l with keyAllowed := false }.push t).moveTo c)

def openFlow (l : Lexer) (t : Token) : Except Fault Lexer := do
  let l ← l.saveKey
  .ok ({ l with keys := none :: l.keys, keyAllowed := true }.mark t 1)

def closeFlow (l : Lexer) (t : Token) : Except Fault Lexer := do
  let l ← l.dropKey
  if l.inFlow then .ok ({ l with keys := l.keys.drop 1, keyAllowed := false }.mark t 1)
  else .error .malformed

def flowEntry (l : Lexer) : Except Fault Lexer := do
  let l ← l.dropKey
  .ok ({ l with keyAllowed := true }.mark .flowEntry 1)

/-- Opens a block collection for an indicator at this place. -/
def openBlock (l : Lexer) (t : Token) : Except Fault Lexer :=
  if l.inFlow then .ok l
  else if l.keyAllowed then .ok (l.indent l.cursor.column l.tokens.size t)
  else .error .malformed

def blockEntry (l : Lexer) : Except Fault Lexer := do
  let l ← l.openBlock .blockSequenceStart
  let l ← l.dropKey
  .ok ({ l with keyAllowed := true }.mark .blockEntry 1)

def explicitKey (l : Lexer) : Except Fault Lexer := do
  let l ← l.openBlock .blockMappingStart
  let l ← l.dropKey
  .ok ({ l with keyAllowed := !l.inFlow }.mark .key 1)

/-- A colon: it makes a key of what may have been one, or else belongs to an explicit key. -/
def value (l : Lexer) : Except Fault Lexer := do
  match l.currentKey with
  | some k =>
    let l := { l.setKey none with tokens := l.tokens.insertIdxIfInBounds k.tokens .key }
    let l := if l.inFlow then l else l.indent k.column k.tokens .blockMappingStart
    .ok ({ l with keyAllowed := false }.mark .value 1)
  | none =>
    let l ← l.openBlock .blockMappingStart
    .ok ({ l with keyAllowed := !l.inFlow }.mark .value 1)

/-- A token that may be a key. -/
def content (l : Lexer) (read : Cursor → Except Fault (Token × Cursor)) : Except Fault Lexer := do
  let l ← l.saveKey
  let (t, c) ← read l.cursor
  .ok (({ l with keyAllowed := false }.push t).moveTo c)

def anchored (make : String → Token) (c : Cursor) : Except Fault (Token × Cursor) := do
  let (name, c) ← anchorName c
  .ok (make name, c)

def quotedToken (double : Bool) (c : Cursor) : Except Fault (Token × Cursor) := do
  let (s, c) ← quotedScalar double c
  .ok (.scalar (String.ofList s) false, c)

def block (l : Lexer) (fold : Bool) : Except Fault Lexer := do
  let l ← l.dropKey
  let (s, c) ← blockScalar fold l.margin l.cursor
  .ok (({ l with keyAllowed := true }.push (.scalar (String.ofList s) false)).moveTo c)

def plain (l : Lexer) : Except Fault Lexer := do
  let l ← l.saveKey
  let s := plainScalar l.inFlow l.margin l.cursor
  .ok (({ l with keyAllowed := s.newLine }.push (.scalar (String.ofList s.text) true)).moveTo s.cursor)

/-- The characters that no plain scalar starts with, blanks and line ends apart. -/
def indicators : List Char := "-?:,[]\x7b\x7d#&*!|>'\"%@`".toList

/-- Whether a plain scalar starts here. -/
def startsPlain (flow : Bool) (c : Char) (next : Option Char) : Bool :=
  !(isSpace c || isBreak c || indicators.contains c) ||
    (!endsWord next && (c == '-' || (!flow && (c == '?' || c == ':'))))

/-- The token that starts with `c`. -/
def token (l : Lexer) (c : Char) : Except Fault Lexer :=
  let next := l.cursor.peek 1
  let lineStart := l.cursor.column == 0
  let indicator := l.inFlow || endsWord next
  if c == '%' && lineStart then l.directive
  else if lineStart && l.cursor.atMark Cursor.documentStart then l.separator .documentStart
  else if lineStart && l.cursor.atMark Cursor.documentEnd then l.separator .documentEnd
  else if c == '[' then l.openFlow .flowSequenceStart
  else if c.toNat == 0x7B then l.openFlow .flowMappingStart
  else if c == ']' then l.closeFlow .flowSequenceEnd
  else if c.toNat == 0x7D then l.closeFlow .flowMappingEnd
  else if c == ',' then l.flowEntry
  else if c == '-' && endsWord next then l.blockEntry
  else if c == '?' && indicator then l.explicitKey
  else if c == ':' && indicator then l.value
  else if c == '*' then l.content (anchored .alias)
  else if c == '&' then l.content (anchored .anchor)
  else if c == '!' then l.content tagToken
  else if c == '|' && !l.inFlow then l.block false
  else if c == '>' && !l.inFlow then l.block true
  else if c == singleQuote then l.content (quotedToken false)
  else if c == doubleQuote then l.content (quotedToken true)
  else if startsPlain l.inFlow c next then l.plain
  else .error .malformed

/-- One more token, or none at the end of the text. -/
def step (l : Lexer) : Except Fault (Lexer × Bool) := do
  let l ← (skipBlanks (l.cursor.rest.length + 1) l).dropStale
  let l := l.unwind (l.cursor.column + 1)
  match l.cursor.peek 0 with
  | none => .ok (← (l.unwind 0).dropKey, true)
  | some c => .ok (← l.token c, false)

end Lexer

/-- The tokens of a text, and the fault at which reading them stopped. -/
structure Tokens where
  found : List Token
  fault : Option Fault

def lexFrom : Nat → Lexer → Tokens
  | 0, l => ⟨l.tokens.toList, none⟩
  | fuel + 1, l =>
    match l.step with
    | .error f => ⟨l.tokens.toList, some f⟩
    | .ok (l, true) => ⟨l.tokens.toList, none⟩
    | .ok (l, false) => lexFrom fuel l

/-- The characters that a text may hold. -/
def isPermitted (c : Char) : Bool :=
  let n := c.toNat
  n == 9 || n == 10 || n == 13 || (0x20 ≤ n && n ≤ 0x7E) || n == 0x85 ||
    (0xA0 ≤ n && n ≤ 0xFFFD) || 0x10000 ≤ n

/-- A byte order mark at the very start is left out. -/
def dropMark (c : Cursor) : Cursor := if c.peek 0 == some (Char.ofNat 0xFEFF) then c.next else c

def tokens (text : List Char) : Tokens :=
  if text.all isPermitted then
    let l := Lexer.start text
    lexFrom (text.length + 1) (l.moveTo (dropMark l.cursor))
  else ⟨[], some .malformed⟩

end PatternLint.Yaml
