import PatternLint.Text.Printable
import PatternLint.Text.Lines

/-!
# Quoted text

The form in which names, patterns and paths are shown inside messages: between single quotes, or
between double quotes when the text holds single quotes only; a backslash, the enclosing quote and
every unprintable character are written as escapes.
-/

namespace PatternLint.Text

def hexDigit (n : Nat) : Char := if n < 10 then Char.ofNat (48 + n) else Char.ofNat (87 + n)

/-- The last `width` hexadecimal digits of `n`. -/
def hexDigits : Nat → Nat → List Char
  | 0, _ => []
  | width + 1, n => hexDigits width (n / 16) ++ [hexDigit (n % 16)]

def singleQuote : Char := Char.ofNat 39

def doubleQuote : Char := Char.ofNat 34

/-- The quote that encloses a text. -/
def enclosingQuote (s : List Char) : Char :=
  if s.contains singleQuote && !s.contains doubleQuote then doubleQuote else singleQuote

/-- One character inside the quotes `q`. -/
def escapeChar (q c : Char) : List Char :=
  let n := c.toNat
  if c == q || c == '\\' then ['\\', c]
  else if c == '\n' then ['\\', 'n']
  else if c == '\r' then ['\\', 'r']
  else if c == '\t' then ['\\', 't']
  else if isPrintable n then [c]
  else if n < 0x100 then '\\' :: 'x' :: hexDigits 2 n
  else if n < 0x10000 then '\\' :: 'u' :: hexDigits 4 n
  else '\\' :: 'U' :: hexDigits 8 n

def quotedChars (s : List Char) : List Char :=
  let q := enclosingQuote s
  q :: (s.flatMap (escapeChar q) ++ [q])

/-- A text as messages show it. -/
def quoted (s : String) : String := String.ofList (quotedChars s.toList)

/-- A list of texts as messages show it. -/
def quotedList (xs : List String) : String := "[" ++ joinWith ", " (xs.map quoted) ++ "]"

end PatternLint.Text
