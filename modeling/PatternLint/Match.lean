import PatternLint.Pattern.Matching

/-!
# Matches in a whole text

A pattern is searched in the complete text, so that a match may span lines.  The scan lists the
leftmost matches that do not overlap; after an empty match it goes on one character further.
-/

namespace PatternLint

/-- One occurrence of a pattern: its offsets and the characters between them. -/
structure Match where
  start : Nat
  stop : Nat
  text : String
  deriving DecidableEq, Repr

namespace Match

def isEmpty (m : Match) : Bool := m.start == m.stop

end Match

namespace Pattern

/-- Where the scan goes on after a match. -/
def resume (start stop : Nat) : Nat := if start = stop then stop + 1 else stop

/-- The spans found from `pos` on, at most `fuel` of them. -/
def spansFrom (text : Array Char) (p : Pattern) : Nat → Nat → List (Nat × Nat)
  | 0, _ => []
  | fuel + 1, pos =>
    match search text p pos with
    | none => []
    | some (s, e) => (s, e) :: spansFrom text p fuel (resume s e)

/-- The offsets of the matches in a text. -/
def spans (text : Array Char) (p : Pattern) : List (Nat × Nat) :=
  spansFrom text p (text.size + 1) 0

/-- The characters of a text from one offset to another. -/
def slice (text : Array Char) (s e : Nat) : String := String.ofList (text.extract s e).toList

/-- The matches in a text, from left to right. -/
def findMatches (text : String) (p : Pattern) : List Match :=
  let chars := text.toList.toArray
  (spans chars p).map fun (s, e) => ⟨s, e, slice chars s e⟩

end Pattern

end PatternLint
