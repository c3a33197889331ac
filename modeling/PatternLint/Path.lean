import PatternLint.Glob

/-!
# Paths of files

A path is a start and a list of names.  Empty names and single dots are dropped when a path is read,
double dots are kept, since a link may stand before them; `absolute` resolves them by the names alone.
-/

namespace PatternLint

open PatternLint.Text

/-- Where a path starts. -/
inductive Anchor
  | relative
  | root
  /-- Two slashes, which are kept apart from one. -/
  | doubleRoot
  deriving DecidableEq, Repr

structure Path where
  anchor : Anchor
  names : List String
  deriving DecidableEq, Repr

namespace Path

def here : Path := ⟨.relative, []⟩

/-- The start of a path: exactly two slashes are another root than one, or three and more. -/
def anchorOf (s : List Char) : Anchor :=
  match (s.takeWhile (· == '/')).length with
  | 0 => .relative
  | 2 => .doubleRoot
  | _ => .root

def isName (s : String) : Bool := s != "" && s != "."

def ofString (s : String) : Path := ⟨anchorOf s.toList, (pieces '/' s).filter isName⟩

def anchorText : Anchor → String
  | .relative => ""
  | .root => "/"
  | .doubleRoot => "//"

def text (p : Path) : String :=
  if p = here then "." else anchorText p.anchor ++ joinWith "/" p.names

def isAbsolute (p : Path) : Bool := p.anchor ≠ .relative

/-- A path seen from a base; an absolute one stays as it is. -/
def under (p base : Path) : Path :=
  if p.isAbsolute then p else ⟨base.anchor, base.names ++ p.names⟩

def child (p : Path) (name : String) : Path := ⟨p.anchor, p.names ++ [name]⟩

/-- Names with every double dot resolved against the name before it; above the root there is nothing.
`done` holds the names so far, the last one first. -/
def resolveDots (done : List String) : List String → List String
  | [] => done.reverse
  | n :: rest => if n = ".." then resolveDots (done.drop 1) rest else resolveDots (n :: done) rest

/-- The absolute path without double dots, by the names alone. -/
def absolute (p cwd : Path) : Path :=
  let full := p.under cwd
  ⟨full.anchor, resolveDots [] full.names⟩

/-- The names of a path behind those of a base. -/
def relativeTo? (p base : Path) : Option Path :=
  if p.anchor = base.anchor && base.names.isPrefixOf p.names then
    some ⟨.relative, p.names.drop base.names.length⟩
  else none

/-- How a path is reported: relative to the root of the tree if it lies in it. -/
def displayed (p cwd root : Path) : String :=
  let full := p.absolute cwd
  match full.relativeTo? (root.absolute cwd) with
  | some inside => normalize inside.text
  | none => normalize full.text

end Path

end PatternLint
