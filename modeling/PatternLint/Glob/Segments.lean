/-!
# Segments of a path against segments of a glob

The segment `**` stands for any number of path segments, every other one for exactly one that
matches it.  At `**` the rest of the glob is tried first, then `**` takes one more path segment.
Several of them would meet the same rest of the path over and over, so every answer is written down
under the numbers of segments that were left.  There is no limit to the number of segments.
-/

namespace PatternLint.Glob

/-- The segment that stands for any number of segments. -/
def manySegments : List Char := ['*', '*']

/-- Answers so far, by the numbers of glob segments and of path segments that were left. -/
abbrev Memo := List ((Nat × Nat) × Bool)

/-- The answer under a key; where there is none yet, `find` gives it and it is written down. -/
def remember (key : Nat × Nat) (find : Memo → Bool × Memo) (seen : Memo) : Bool × Memo :=
  match seen.lookup key with
  | some answer => (answer, seen)
  | none =>
    let found := find seen
    (found.1, (key, found.1) :: found.2)

section Recursion

variable (ok : List Char → List Char → Bool)

/-- `**` in front of glob segments that `rest` decides; `left` counts it and them. -/
def matchMany (left : Nat) (rest : List (List Char) → Memo → Bool × Memo) :
    List (List Char) → Memo → Bool × Memo
  | [] => remember (left, 0) (rest [])
  | s :: path => remember (left, path.length + 1) fun seen =>
    let skipped := rest (s :: path) seen
    if skipped.1 then skipped else matchMany left rest path skipped.2

/-- Whether the glob segments match the path segments, given the answers so far. -/
def matchFrom : List (List Char) → List (List Char) → Memo → Bool × Memo
  | [], path => remember (0, path.length) fun seen => (path.isEmpty, seen)
  | glob :: globs, path =>
    if glob = manySegments then matchMany (globs.length + 1) (matchFrom globs) path
    else remember (globs.length + 1, path.length) fun seen =>
      match path with
      | [] => (false, seen)
      | s :: path => if ok glob s then matchFrom globs path seen else (false, seen)

/-- Whether the glob segments match the path segments. -/
def matchSegments (path globs : List (List Char)) : Bool := (matchFrom ok globs path []).1

end Recursion

end PatternLint.Glob
