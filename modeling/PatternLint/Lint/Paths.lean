import PatternLint.Lint.Engine
import PatternLint.Volume

/-!
# Linting files of a volume

Files are read relative to the root of a tree and reported relative to it; a file outside of the tree
keeps its absolute path.
-/

namespace PatternLint

namespace Engine

/-- The job of one file. -/
def jobOf (v : Volume) (root p : Path) : Job :=
  let full := p.under root
  ⟨full.displayed v.cwdPath root, v.readText full⟩

/-- Whether a path names no file because it holds a null character. -/
def hasNull (p : Path) : Bool := p.names.any (·.toList.contains (Char.ofNat 0))

/-- Reads and lints files; the root is the working directory unless another one is given. -/
def runPaths (e : Engine) (v : Volume) (paths : List Path) (root : Option Path) :
    Except RunFailure LintResult :=
  let base := root.getD v.cwdPath
  if paths.any fun p => hasNull (p.under base) then .error .nullInPath
  else e.runJobs (paths.map (jobOf v base))

end Engine

end PatternLint
