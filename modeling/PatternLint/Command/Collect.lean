import PatternLint.Volume

/-!
# Collecting files

Directories are replaced by the files below them, in the order of their names; what version control
systems keep is left out, and no file comes twice.  A path that is too long cannot even be asked about, and
ends it all.
-/

namespace PatternLint.Command

/-- Directories that are passed over. -/
def skipped : List String := [".git", ".hg", ".svn"]

/-- Lexicographic order of lists of names. -/
def namesLe : List String → List String → Bool
  | [], _ => true
  | _ :: _, [] => false
  | a :: as, b :: bs => if a = b then namesLe as bs else a < b

/-- Whether a path is too long to be asked about. -/
def tooLong (v : Volume) (p : Path) : Bool := v.find p matches .error .nameTooLong

/-- The first of the paths below a directory that is too long; that one of the directories below cannot be
listed shows before the files are asked about in their order. -/
def tooLongBelow? (v : Volume) (place : List String) (p : Path) (found ordered : List Path) :
    Option Path :=
  found.find? (fun child =>
      v.isDirectoryAt (place ++ child.names.drop p.names.length) && tooLong v child) <|>
    ordered.find? (tooLong v)

/-- The files below a directory. -/
def filesBelow (v : Volume) (place : List String) (p : Path) :
    Except (AccessFault × Path) (List Path) :=
  let found := v.below v.depth place p
  let ordered := found.mergeSort fun a b => namesLe a.names b.names
  match tooLongBelow? v place p found ordered with
  | some child => .error (.nameTooLong, child)
  | none =>
    .ok (ordered.filter fun child =>
      (v.find child matches .ok (.file _)) &&
        !(child.names.drop p.names.length).any skipped.contains)

/-- What a path stands for. -/
def expand (v : Volume) (root : Path) (raw : String) : Except (AccessFault × Path) (List Path) :=
  let full := (Path.ofString raw).under root
  match v.find full, v.resolve true full with
  | .ok .directory, .ok place => filesBelow v place full
  | .error .nameTooLong, _ => .error (.nameTooLong, full)
  | _, _ => .ok [full]

/-- The files that paths stand for, each one once. -/
def collect (v : Volume) (root : Path) (raws : List String) :
    Except (AccessFault × Path) (List Path) := do
  let found ← raws.mapM (expand v root)
  .ok found.flatten.eraseDups

end PatternLint.Command
