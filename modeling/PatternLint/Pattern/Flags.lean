/-!
# Flags of a pattern

Flags may be set for a whole pattern, or switched on and off for one of its parts.  A `Mode` is what
is left of them when a character or a position is tested.
-/

namespace PatternLint.Pattern

inductive Flag
  | ignoreCase
  | locale
  | multiline
  | dotAll
  | verbose
  | ascii
  | template
  | unicode
  deriving DecidableEq, Repr

namespace Flag

/-- The flag that a letter stands for in a pattern. -/
def ofChar? : Char → Option Flag
  | 'i' => some .ignoreCase
  | 'L' => some .locale
  | 'm' => some .multiline
  | 's' => some .dotAll
  | 'x' => some .verbose
  | 'a' => some .ascii
  | 't' => some .template
  | 'u' => some .unicode
  | _ => none

/-- The flags of which at most one may hold: they fix the alphabet of the character classes. -/
def isAlphabet : Flag → Bool
  | .ascii | .locale | .unicode => true
  | _ => false

end Flag

/-- Flags that are switched on and off for a part of a pattern. -/
structure FlagChange where
  on : List Flag
  off : List Flag
  deriving DecidableEq, Repr

/-- How characters and positions are tested. -/
structure Mode where
  ignoreCase : Bool
  multiline : Bool
  dotAll : Bool
  ascii : Bool
  deriving DecidableEq, Repr

namespace Mode

def ofFlags (flags : List Flag) : Mode where
  ignoreCase := flags.contains .ignoreCase
  multiline := flags.contains .multiline
  dotAll := flags.contains .dotAll
  ascii := flags.contains .ascii

/-- The mode inside a part that changes flags. -/
def apply (m : Mode) (change : FlagChange) : Mode where
  ignoreCase := (m.ignoreCase || change.on.contains .ignoreCase) && !change.off.contains .ignoreCase
  multiline := (m.multiline || change.on.contains .multiline) && !change.off.contains .multiline
  dotAll := (m.dotAll || change.on.contains .dotAll) && !change.off.contains .dotAll
  ascii := change.on.contains .ascii || (m.ascii && !change.on.contains .unicode)

end Mode

end PatternLint.Pattern
