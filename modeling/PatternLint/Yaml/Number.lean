import PatternLint.Text.Blank
import PatternLint.Text.LetterCase
import PatternLint.Text.Letter
import PatternLint.Yaml.Fault

/-!
# Numbers

`isInteger` and `isFloat` say which plain scalars are numbers: signs, underscores between the digits,
the bases two, eight and sixteen, and digits to the base sixty with colons.  `integer` and `float`
read a scalar that is tagged as a number and may still be none.
-/

namespace PatternLint.Yaml

open PatternLint.Text

def isDigit (c : Char) : Bool := isAsciiDigit c.toNat

def dropSign : List Char → List Char
  | '+' :: rest => rest
  | '-' :: rest => rest
  | s => s

/-! ## What looks like a number -/

def isDigitOrGap (c : Char) : Bool := isDigit c || c == '_'

/-- A digit to the base sixty: one decimal digit, or two of which the first is at most five. -/
def isSixtieth : List Char → Bool
  | [d] => isDigit d
  | [t, d] => '0' ≤ t && t ≤ '5' && isDigit d
  | _ => false

def isHexOrGap (c : Char) : Bool :=
  isDigitOrGap c || ('a' ≤ c && c ≤ 'f') || ('A' ≤ c && c ≤ 'F')

/-- Digits of a base behind its mark, at least one. -/
def isRunOf (p : Char → Bool) (s : List Char) : Bool := !s.isEmpty && s.all p

def isInteger (s : List Char) : Bool :=
  match dropSign s with
  | ['0'] => true
  | '0' :: 'b' :: rest => isRunOf (fun c => c == '0' || c == '1' || c == '_') rest
  | '0' :: 'x' :: rest => isRunOf isHexOrGap rest
  | '0' :: rest => isRunOf (fun c => ('0' ≤ c && c ≤ '7') || c == '_') rest
  | s =>
    match splitOn ':' s with
    | (c :: rest) :: sixtieths => isDigit c && rest.all isDigitOrGap && sixtieths.all isSixtieth
    | _ => false

/-- An exponent, which needs a sign. -/
def isExponent : List Char → Bool
  | e :: sign :: digits =>
    (e == 'e' || e == 'E') && (sign == '+' || sign == '-') && isRunOf isDigit digits
  | _ => false

/-- Decimals behind the point, with or without an exponent. -/
def isFraction (s : List Char) : Bool :=
  let rest := s.dropWhile isDigitOrGap
  rest.isEmpty || isExponent rest

def infinities : List (List Char) := [".inf", ".Inf", ".INF"].map String.toList

def nothings : List (List Char) := [".nan", ".NaN", ".NAN"].map String.toList

def isFloat (s : List Char) : Bool :=
  let unsigned := dropSign s
  let whole := unsigned.takeWhile (· != '.')
  let decimals := unsigned.dropWhile (· != '.')
  infinities.contains unsigned || nothings.contains s ||
    match whole, decimals with
    | _, [] => false
    | [], _ :: decimals =>
      unsigned == s && decimals.head?.any isDigit && isFraction decimals
    | c :: rest, _ :: decimals =>
      if rest.contains ':' then
        match splitOn ':' whole with
        | (c :: rest) :: sixtieths =>
          isDigit c && rest.all isDigitOrGap && sixtieths.all isSixtieth &&
            decimals.all isDigitOrGap
        | _ => false
      else isDigit c && rest.all isDigitOrGap && isFraction decimals

/-! ## What is tagged as a number -/

/-- A text without its gaps. -/
def withoutGaps (s : List Char) : List Char := s.filter (· != '_')

/-- Blanks that may stand around the digits of a number. -/
def isPadding (s : List Char) (c : Char) : Bool :=
  if s.all (·.toNat < 128) then isAsciiBlank c.toNat else isBlank c.toNat

def trimmed (s : List Char) : List Char :=
  let pad := isPadding s
  ((s.dropWhile pad).reverse.dropWhile pad).reverse

/-- The value of a digit to a base: a decimal digit of any script, or a letter. -/
def baseDigit? (base : Nat) (c : Char) : Option Nat :=
  let n := c.toNat
  let value :=
    if 97 ≤ n && n ≤ 122 then some (n - 87)
    else if 65 ≤ n && n ≤ 90 then some (n - 55)
    else digitValue? n
  value.filter (· < base)

/-- The mark of a base, which may stand before its digits. -/
def dropBaseMark (base : Nat) : List Char → List Char
  | '0' :: m :: rest =>
    if (base == 16 && (m == 'x' || m == 'X')) || (base == 8 && (m == 'o' || m == 'O')) ||
        (base == 2 && (m == 'b' || m == 'B')) then rest
    else '0' :: m :: rest
  | s => s

/-- The most decimal digits that a number may have. -/
def digitLimit : Nat := 4300

/-- A number to a base, with a sign and blanks around it. -/
def numeral (base : Nat) (s : List Char) : Except Fault Int :=
  let body := trimmed s
  let digits := dropBaseMark base (dropSign body)
  match digits.mapM (baseDigit? base) with
  | none => .error (.notInteger base (String.ofList s))
  | some [] => .error (.notInteger base (String.ofList s))
  | some values =>
    if base == 10 && digitLimit < values.length then .error (.tooManyDigits values.length)
    else
      let n := values.foldl (fun n d => base * n + d) 0
      .ok (if body.head? == some '-' then -(n : Int) else n)

/-- Digits to the base sixty. -/
def sexagesimal (parts : List Int) : Int := parts.foldl (fun n d => 60 * n + d) 0

/-- The number behind the sign. -/
def magnitude (s : List Char) : Except Fault Int :=
  match s with
  | [] => .error .emptyNumber
  | ['0'] => .ok 0
  | '0' :: 'b' :: rest => numeral 2 rest
  | '0' :: 'x' :: rest => numeral 16 rest
  | '0' :: _ => numeral 8 s
  | s =>
    if s.contains ':' then do
      let parts ← (splitOn ':' s).mapM (numeral 10)
      .ok (sexagesimal parts)
    else numeral 10 s

/-- The integer that a scalar denotes. -/
def integer (s : List Char) : Except Fault Int := do
  let s := withoutGaps s
  if s.isEmpty then .error .emptyNumber
  else
    let n ← magnitude (dropSign s)
    .ok (if s.head? == some '-' then -n else n)

/-- A decimal digit of any script. -/
def isAnyDigit (c : Char) : Bool := isDecimal c.toNat

def isDecimalExponent : List Char → Bool
  | [] => true
  | 'e' :: rest => isRunOf isAnyDigit (dropSign rest)
  | _ => false

/-- Whether a lower-case text is a floating-point number. -/
def isFloatLiteral (s : List Char) : Bool :=
  let body := dropSign (trimmed s)
  let whole := body.takeWhile isAnyDigit
  let rest := body.dropWhile isAnyDigit
  [['i', 'n', 'f'], "infinity".toList, ['n', 'a', 'n']].contains body ||
    match rest with
    | '.' :: rest =>
      let decimals := rest.takeWhile isAnyDigit
      !(whole.isEmpty && decimals.isEmpty) && isDecimalExponent (rest.dropWhile isAnyDigit)
    | rest => !whole.isEmpty && isDecimalExponent rest

/-- Whether the parts of a scalar are all floating-point numbers. -/
def floatParts : List (List Char) → Except Fault Unit
  | [] => .ok ()
  | part :: rest =>
    if isFloatLiteral part then floatParts rest else .error (.notFloat (String.ofList part))

/-- Checks that a scalar denotes a floating-point number. -/
def float (s : List Char) : Except Fault Unit :=
  let s := toLower (withoutGaps s)
  if s.isEmpty then .error .emptyNumber
  else
    let s := dropSign s
    if s == ".inf".toList || s == ".nan".toList then .ok ()
    else floatParts (splitOn ':' s)

end PatternLint.Yaml
