import PatternLint.Glob.Segments
import PatternLint.Glob.Wildcard
import PatternLint.Text.Lines

/-!
# Globs

A glob is matched segment by segment against a path relative to the root of a tree.  A slash at its
start is ignored, one at its end stands for everything below a directory, and a glob without a slash
is also tried against the last segment alone.
-/

namespace PatternLint

open PatternLint.Text

namespace Path

/-- Removes every leading `./`. -/
def dropDots : List Char → List Char
  | '.' :: '/' :: rest => dropDots rest
  | s => s

/-- A backslash counts as a slash. -/
def slashed (c : Char) : Char := if c = '\\' then '/' else c

/-- A path with slashes between its segments and no `./` at its start. -/
def normalizeChars (s : List Char) : List Char := dropDots (s.map slashed)

def normalize (s : String) : String := String.ofList (normalizeChars s.toList)

end Path

namespace Glob

/-- The text of a glob once its slashes at both ends are dealt with; empty if it matches nothing. -/
def prepare (glob : List Char) : List Char :=
  let g := (Path.normalizeChars glob).dropWhile (· == '/')
  if g.getLast? == some '/' then (g.reverse.dropWhile (· == '/')).reverse ++ ['/', '*', '*'] else g

/-- Whether a path matches a glob, both given as characters. -/
def matchesChars (path glob : List Char) : Bool :=
  let g := prepare glob
  let segments := splitOn '/' (Path.normalizeChars path)
  if g.isEmpty then false
  else if g.contains '/' then matchSegments matchSegment segments (splitOn '/' g)
  else
    matchSegment g (segments.getLastD []) || matchSegments matchSegment segments [g]

/-- Whether a path matches a glob. -/
def isMatch (path glob : String) : Bool := matchesChars path.toList glob.toList

/-- Whether a path matches one of several globs. -/
def matchesAny (path : String) (globs : List String) : Bool := globs.any (isMatch path)

end Glob

end PatternLint
