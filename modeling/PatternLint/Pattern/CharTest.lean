import PatternLint.Pattern.Flags
import PatternLint.Text.Blank
import PatternLint.Text.Letter
import PatternLint.Text.LetterCase

/-!
# Tests on one character

A pattern consumes a text one character at a time, each under a `CharTest`.  Characters stand as code
points, because a pattern may name code points that no text contains.

When case is ignored the character's lower case is tested against lower-case members, and a member
also stands for its case mates.  Two points about sets are rules of their own: a single member above
U+FFFF is compared as written, and a range that reaches above U+FFFF accepts a character whose lower
case, or the upper case of that, lies in it.
-/

namespace PatternLint.Pattern

open PatternLint.Text

inductive Category
  | digit
  | space
  | word
  deriving DecidableEq, Repr

namespace Category

def holds (ascii : Bool) (k : Category) (n : Nat) : Bool :=
  match k, ascii with
  | .digit, true => isAsciiDigit n
  | .digit, false => isDecimal n
  | .space, true => isAsciiBlank n
  | .space, false => isBlank n
  | .word, true => isAsciiWord n
  | .word, false => isWord n

end Category

inductive SetItem
  | code (n : Nat)
  | range (lo hi : Nat)
  | category (k : Category)
  | notCategory (k : Category)
  deriving DecidableEq, Repr

inductive CharTest
  | literal (n : Nat)
  | notLiteral (n : Nat)
  | oneOf (items : List SetItem)
  | noneOf (items : List SetItem)
  | any
  deriving DecidableEq, Repr

def Mode.lower (m : Mode) (n : Nat) : Nat := if m.ascii then lowerAscii n else lowerCode n

/-- The characters other than `n` that a lower-case `n` stands for when case is ignored. -/
def Mode.mates (m : Mode) (n : Nat) : List Nat := if m.ascii then [] else caseMates n

/-- Whether `x` is the lower case of a code point between `lo` and `hi`. -/
def Mode.lowerMeets (m : Mode) (lo hi x : Nat) : Bool :=
  if m.ascii then
    (lo ≤ x && x ≤ hi && lowerAscii x == x) || (97 ≤ x && x ≤ 122 && lo ≤ x - 32 && x - 32 ≤ hi)
  else
    (lo ≤ x && x ≤ hi && lowerCode x == x) ||
      (lowerPreimages x).any fun i => lo ≤ i && i ≤ hi

namespace SetItem

/-- Membership of `n` with its case as it is. -/
def holds (ascii : Bool) : SetItem → Nat → Bool
  | .code c, n => n == c
  | .range lo hi, n => lo ≤ n && n ≤ hi
  | .category k, n => k.holds ascii n
  | .notCategory k, n => !k.holds ascii n

/-- Membership of a lower-case `x` when case is ignored. -/
def holdsFolded (m : Mode) : SetItem → Nat → Bool
  | .code c, x =>
    let l := m.lower c
    if l ≤ 0xFFFF then x == l || (m.mates l).contains x else x == c
  | .range lo hi, x =>
    let low := min hi 0xFFFF
    m.lowerMeets lo low x || (m.mates x).any (fun y => m.lowerMeets lo low y) ||
      (0xFFFF < hi && ((lo ≤ x && x ≤ hi) || (lo ≤ upperCode x && upperCode x ≤ hi)))
  | .category k, x => k.holds m.ascii x
  | .notCategory k, x => !k.holds m.ascii x

end SetItem

namespace CharTest

/-- Whether the code point `n` is the literal `c`. -/
def sameCode (m : Mode) (c n : Nat) : Bool :=
  if m.ignoreCase then
    let l := m.lower c
    let x := m.lower n
    x == l || (m.mates l).contains x
  else n == c

def inSet (m : Mode) (items : List SetItem) (n : Nat) : Bool :=
  if m.ignoreCase then
    let x := m.lower n
    items.any fun i => i.holdsFolded m x
  else items.any fun i => i.holds m.ascii n

/-- Whether the test accepts the code point `n`. -/
def accepts (m : Mode) : CharTest → Nat → Bool
  | .literal c, n => sameCode m c n
  | .notLiteral c, n => !sameCode m c n
  | .oneOf items, n => inSet m items n
  | .noneOf items, n => !inSet m items n
  | .any, n => m.dotAll || n != 10

end CharTest

end PatternLint.Pattern
