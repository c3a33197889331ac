import PatternLint.Glob

/-!
# Path scopes

A scope admits a path that matches one of its include globs, if it has such a list, and none of its
exclude globs.  A list that is set but empty counts: nothing matches an empty include list.
-/

namespace PatternLint

/-- Include and exclude globs; `none` means that the list is not set. -/
structure Scope where
  includes : Option (List String)
  excludes : Option (List String)
  deriving DecidableEq, Repr

namespace Scope

/-- The scope that admits every path. -/
def everywhere : Scope := ⟨none, none⟩

/-- Whether one of the lists is set. -/
def isSet (s : Scope) : Bool := s.includes.isSome || s.excludes.isSome

def admits (s : Scope) (path : String) : Bool :=
  (s.includes.all fun globs => Glob.matchesAny path globs) &&
    !(s.excludes.any fun globs => Glob.matchesAny path globs)

end Scope

end PatternLint
