/-!
# Wildcards inside one path segment

`*` stands for any characters, `?` for one, `[…]` for one of a set and `[!…]` for one outside it.  A
bracket that is never closed is a character like any other.  A set whose ranges all run backwards is
empty: nothing is in it, and everything is outside it.
-/

namespace PatternLint.Glob

/-- What one place of a segment is compared with. -/
inductive Wildcard
  | star
  | any
  | char (c : Char)
  /-- One of `singles`, or between the ends of one of `ranges`, or none of these if `negated`. -/
  | set (negated : Bool) (singles : List Char) (ranges : List (Char × Char))
  deriving DecidableEq, Repr

namespace Wildcard

/-- Cuts the inside of a bracket at the hyphens that make ranges: the first piece has at least
`least` characters, the later ones two.  A hyphen at the end is a character. -/
def cut : Nat → Nat → List Char → List (List Char)
  | 0, _, s => [s]
  | fuel + 1, least, s =>
    match (s.drop least).findIdx? (· == '-') with
    | none => if s.isEmpty then [] else [s]
    | some k =>
      let head := s.take (least + k)
      match cut fuel 2 (s.drop (least + k + 1)) with
      | [] => [head ++ ['-']]
      | pieces => head :: pieces

/-- Takes out the ranges that run backwards, together with their ends. -/
def dropBackwards : List (List Char) → List (List Char)
  | [] => []
  | piece :: rest =>
    match dropBackwards rest with
    | [] => [piece]
    | next :: later =>
      match piece.getLast?, next.head? with
      | some a, some b =>
        if b < a then (piece.dropLast ++ next.tail) :: later else piece :: next :: later
      | _, _ => piece :: next :: later

/-- The ranges between neighbouring pieces. -/
def rangesOf : List (List Char) → List (Char × Char)
  | a :: b :: rest =>
    match a.getLast?, b.head? with
    | some x, some y => (x, y) :: rangesOf (b :: rest)
    | _, _ => rangesOf (b :: rest)
  | _ => []

/-- The set that the inside of a bracket stands for. -/
def ofBracket (inside : List Char) : Wildcard :=
  let least := if inside.head? == some '!' then 2 else 1
  let pieces := dropBackwards (cut inside.length least inside)
  match pieces with
  | ('!' :: first) :: rest => .set true (first ++ rest.flatten) (rangesOf (first :: rest))
  | _ => .set false pieces.flatten (rangesOf pieces)

/-- Splits what follows an opening bracket into its inside and what follows the closing one.  A
closing bracket right at the start, or right behind `!`, belongs to the inside. -/
def bracket? (s : List Char) : Option (List Char × List Char) :=
  let lead := if s.head? == some '!' then 1 else 0
  let lead := if (s.drop lead).head? == some ']' then lead + 1 else lead
  match (s.drop lead).findIdx? (· == ']') with
  | none => none
  | some k => some (s.take (lead + k), s.drop (lead + k + 1))

/-- The wildcards of a segment; each takes at least one of its characters. -/
def parseUpTo : Nat → List Char → List Wildcard
  | 0, _ => []
  | _, [] => []
  | fuel + 1, '*' :: rest => .star :: parseUpTo fuel rest
  | fuel + 1, '?' :: rest => .any :: parseUpTo fuel rest
  | fuel + 1, '[' :: rest =>
    match bracket? rest with
    | none => .char '[' :: parseUpTo fuel rest
    | some (inside, after) => ofBracket inside :: parseUpTo fuel after
  | fuel + 1, c :: rest => .char c :: parseUpTo fuel rest

def parse (s : List Char) : List Wildcard := parseUpTo s.length s

/-- Whether a wildcard accepts one character. -/
def accepts (w : Wildcard) (c : Char) : Bool :=
  match w with
  | .star => true
  | .any => true
  | .char d => c == d
  | .set negated singles ranges =>
    (singles.contains c || ranges.any fun r => r.1 ≤ c && c ≤ r.2) != negated

/-- Whether `p` holds of a suffix. -/
def anySuffix (p : List Char → Bool) : List Char → Bool
  | [] => p []
  | c :: rest => p (c :: rest) || anySuffix p rest

/-- Whether the wildcards cover a whole segment. -/
def covers : List Wildcard → List Char → Bool
  | [], s => s.isEmpty
  | .star :: ws, s => anySuffix (covers ws) s
  | w :: ws, s =>
    match s with
    | [] => false
    | c :: rest => w.accepts c && covers ws rest

end Wildcard

/-- Whether a segment matches the wildcards spelled by `glob`. -/
def matchSegment (glob segment : List Char) : Bool := Wildcard.covers (Wildcard.parse glob) segment

end PatternLint.Glob
