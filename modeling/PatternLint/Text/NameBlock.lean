import PatternLint.Text.Lines

/-!
# Blocks of character names
-/

namespace PatternLint.Text

/-- The names of consecutive code points, with semicolons between them; a code point without a
name has an empty one. -/
structure NameBlock where
  first : Nat
  names : String

/-- The code point of a name in a block. -/
def NameBlock.codeOf? (b : NameBlock) (name : String) : Option Nat :=
  ((pieces ';' b.names).idxOf? name).map (b.first + ·)

end PatternLint.Text
