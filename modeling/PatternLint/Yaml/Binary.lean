import PatternLint.Text.Letter

/-!
# Octets in base sixty-four

Four characters stand for three octets; an equals sign fills up the last four.  Other characters are
passed over.
-/

namespace PatternLint.Yaml

open PatternLint.Text

def isSextet (c : Char) : Bool :=
  isAsciiLetter c.toNat || isAsciiDigit c.toNat || c == '+' || c == '/'

/-- Whether a text is complete; `filled` characters of the current four are there, and `pads` signs
have followed them. -/
def isCompleteFrom (filled pads : Nat) : List Char → Bool
  | [] => filled == 0
  | c :: rest =>
    if c == '=' then
      if 2 ≤ filled then
        4 ≤ filled + pads + 1 || isCompleteFrom filled (pads + 1) rest
      else isCompleteFrom filled pads rest
    else if isSextet c then isCompleteFrom ((filled + 1) % 4) 0 rest
    else isCompleteFrom filled pads rest

/-- Whether a text spells octets. -/
def isBinary (s : List Char) : Bool := s.all (·.toNat < 128) && isCompleteFrom 0 0 s

end PatternLint.Yaml
