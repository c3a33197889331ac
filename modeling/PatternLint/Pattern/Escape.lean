import PatternLint.Pattern.Node
import PatternLint.Pattern.Token
import PatternLint.Text.CharName

/-!
# Escapes

What a backslash and the character behind it stand for, outside and inside a character set.
-/

namespace PatternLint.Pattern

open PatternLint.Text

def isHexDigit (c : Char) : Bool :=
  ('0' ≤ c && c ≤ '9') || ('a' ≤ c && c ≤ 'f') || ('A' ≤ c && c ≤ 'F')

def isOctalDigit (c : Char) : Bool := '0' ≤ c && c ≤ '7'

def isDecimalDigit (c : Char) : Bool := '0' ≤ c && c ≤ '9'

def hexValue (c : Char) : Nat :=
  if c ≤ '9' then c.toNat - 48 else if c ≤ 'F' then c.toNat - 55 else c.toNat - 87

/-- The number that the digits spell in a base. -/
def numeral (base : Nat) (cs : List Char) : Nat := cs.foldl (fun n c => n * base + hexValue c) 0

/-- Letters that stand for a control character, the backspace apart. -/
def controlEscape? : Char → Option Nat
  | 'a' => some 7
  | 'f' => some 12
  | 'n' => some 10
  | 'r' => some 13
  | 't' => some 9
  | 'v' => some 11
  | '\\' => some 92
  | _ => none

/-- Letters that stand for a class of characters. -/
def categoryEscape? : Char → Option SetItem
  | 'd' => some (.category .digit)
  | 'D' => some (.notCategory .digit)
  | 's' => some (.category .space)
  | 'S' => some (.notCategory .space)
  | 'w' => some (.category .word)
  | 'W' => some (.notCategory .word)
  | _ => none

/-- Letters that stand for a position. -/
def anchorEscape? : Char → Option Anchor
  | 'A' => some .textStart
  | 'b' => some .wordBoundary
  | 'B' => some .notWordBoundary
  | 'Z' => some .textEnd
  | _ => none

/-- Fails about an escape spelled `text` that ends before the reader. -/
def failEscape {α : Type} (cause : String → Cause) (text : List Char) (r : Reader) :
    Except Refusal α :=
  fail (cause (String.ofList text)) (r.pos - text.length)

/-- A code point given by exactly `count` hexadecimal digits behind the letter `c`. -/
def hexEscape (c : Char) (count : Nat) (r : Reader) : Except Refusal (Nat × Reader) := do
  let (ds, r) ← r.span count isHexDigit
  let text := '\\' :: c :: ds
  if ds.length ≠ count then failEscape .incompleteEscape text r
  else
    let n := numeral 16 ds
    if n > 0x10FFFF then failEscape .badEscape text r else return (n, r)

/-- A code point given by its name between braces. -/
def namedEscape (r : Reader) : Except Refusal (Nat × Reader) := do
  let (open?, r) ← r.accept '\x7b'
  if !open? then fail (.missing "\x7b") r.pos
  else
    let (cs, r) ← r.name '\x7d' "character name"
    match codeNamed? cs with
    | some n => return (n, r)
    | none => fail (.unknownCharName (String.ofList cs)) (r.pos - (cs.length + 4))

/-- The escapes that name one code point in the same way everywhere. -/
def codeEscape? (c : Char) (r : Reader) : Option (Except Refusal (Nat × Reader)) :=
  match c with
  | 'x' => some (hexEscape 'x' 2 r)
  | 'u' => some (hexEscape 'u' 4 r)
  | 'U' => some (hexEscape 'U' 8 r)
  | 'N' => some (namedEscape r)
  | _ => none

/-- An escape that is none of the special ones: a letter or digit is refused, all else is itself. -/
def plainEscape (c : Char) (r : Reader) : Except Refusal (Nat × Reader) :=
  if isAsciiLetter c.toNat || isDecimalDigit c then failEscape .badEscape ['\\', c] r
  else .ok (c.toNat, r)

/-- An escape inside a character set. -/
def setEscape (c : Char) (r : Reader) : Except Refusal (SetItem × Reader) :=
  match if c == 'b' then some 8 else controlEscape? c with
  | some n => .ok (.code n, r)
  | none =>
    match categoryEscape? c with
    | some item => .ok (item, r)
    | none =>
      match codeEscape? c r with
      | some res => res.map fun (n, r) => (.code n, r)
      | none =>
        if isOctalDigit c then do
          let (ds, r) ← r.span 2 isOctalDigit
          let n := numeral 8 (c :: ds)
          if n > 0o377 then failEscape .octalTooLarge ('\\' :: c :: ds) r
          else return (.code n, r)
        else (plainEscape c r).map fun (n, r) => (.code n, r)

end PatternLint.Pattern
