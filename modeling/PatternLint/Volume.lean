import PatternLint.Path
import PatternLint.Text.Quoted
import PatternLint.Text.Utf8

/-!
# Volumes

A volume is a tree of directories, files and links, known by absolute lists of names, together with a
working directory.  Paths are walked name by name: a link is followed where it stands, and a double dot
leads to the parent of the directory that was reached, not of the name that was written.  There are no
permissions: whatever stands in a volume can be read, searched and written.
-/

namespace PatternLint

open PatternLint.Text

inductive Entry
  | directory
  | file (content : List UInt8)
  | link (target : String)
  deriving DecidableEq, Repr

/-- Why a path cannot be used. -/
inductive AccessFault
  | notFound
  | notDirectory
  | isDirectory
  | nameTooLong
  | linkLoop
  deriving DecidableEq, Repr

namespace AccessFault

def number : AccessFault → Nat
  | .notFound => 2
  | .notDirectory => 20
  | .isDirectory => 21
  | .nameTooLong => 36
  | .linkLoop => 40

def reason : AccessFault → String
  | .notFound => "No such file or directory"
  | .notDirectory => "Not a directory"
  | .isDirectory => "Is a directory"
  | .nameTooLong => "File name too long"
  | .linkLoop => "Too many levels of symbolic links"

def message (f : AccessFault) (path : String) : String :=
  "[Errno " ++ toString f.number ++ "] " ++ f.reason ++ ": " ++ quoted path

end AccessFault

structure Volume where
  /-- The names of the working directory. -/
  cwd : List String
  /-- Everything there is, the parents of each entry included. -/
  entries : List (List String × Entry)

namespace Volume

/-- A volume with nothing but its working directory. -/
def empty (cwd : List String) : Volume :=
  ⟨cwd, (List.range (cwd.length + 1)).map fun n => (cwd.take n, .directory)⟩

def cwdPath (v : Volume) : Path := ⟨.root, v.cwd⟩

/-- What stands at a place; links are not followed. -/
def entry? (v : Volume) (place : List String) : Option Entry := v.entries.lookup place

def isDirectoryAt (v : Volume) (place : List String) : Bool := v.entry? place == some .directory

/-- Puts an entry at a place, instead of what is there. -/
def put (v : Volume) (place : List String) (e : Entry) : Volume :=
  { v with entries := (place, e) :: v.entries.filter (·.1 ≠ place) }

def erase (v : Volume) (place : List String) : Volume :=
  { v with entries := v.entries.filter (·.1 ≠ place) }

/-! ## Walking -/

/-- The most octets that a name may have. -/
def nameLimit : Nat := 255

/-- The most octets that a path may have. -/
def pathLimit : Nat := 4095

/-- The most links that are followed on one walk. -/
def linkLimit : Nat := 40

/-- Where a walk without links ends. -/
inductive Stop
  /-- At an entry, or where one could be made in a directory. -/
  | reached (place : List String)
  | blocked (f : AccessFault)
  /-- At a link in the directory `dir`, with names left to walk. -/
  | link (dir : List String) (target : String) (rest : List String)

/-- Walks from a place; at its end a link is passed over only if `follow` says so. -/
def walkNames (v : Volume) (follow : Bool) (place : List String) : List String → Stop
  | [] => .reached place
  | n :: rest =>
    if !v.isDirectoryAt place then .blocked .notDirectory
    else if n = "." then walkNames v follow place rest
    else if n = ".." then walkNames v follow place.dropLast rest
    else if nameLimit < (encode n).length then .blocked .nameTooLong
    else
      match v.entry? (place ++ [n]) with
      | none => if rest.isEmpty then .reached (place ++ [n]) else .blocked .notFound
      | some (.link target) =>
        if rest.isEmpty && !follow then .reached (place ++ [n]) else .link place target rest
      | some _ => walkNames v follow (place ++ [n]) rest

/-- The names that are walked for a word.  What stands in front of a slash or a dot at its end has to be a
directory. -/
def wordNames (word : String) : List String :=
  let names := (Path.ofString word).names
  if ["", "."].contains ((pieces '/' word).getLastD "") then names ++ ["."] else names

/-- Walks from a place and follows at most `links` links. -/
def walk (v : Volume) (follow : Bool) : Nat → List String → List String →
    Except AccessFault (List String)
  | links, place, names =>
    match v.walkNames follow place names with
    | .reached place => .ok place
    | .blocked f => .error f
    | .link dir target rest =>
      match links with
      | 0 => .error .linkLoop
      | links + 1 =>
        let start := if (Path.ofString target).isAbsolute then [] else dir
        walk v follow links start (wordNames target ++ rest)

/-- The place that a path leads to; the last name need not exist. -/
def resolve (v : Volume) (follow : Bool) (p : Path) : Except AccessFault (List String) :=
  if pathLimit < (encode p.text).length then .error .nameTooLong
  else v.walk follow linkLimit (if p.isAbsolute then [] else v.cwd) p.names

/-- The entry that a path leads to; links are followed. -/
def find (v : Volume) (p : Path) : Except AccessFault Entry := do
  match v.entry? (← v.resolve true p) with
  | some e => .ok e
  | none => .error .notFound

/-- The entry that a word leads to as it stands; links are followed. -/
def findWord (v : Volume) (word : String) : Except AccessFault Entry :=
  if pathLimit < (encode word).length then .error .nameTooLong
  else do
    let start := if (Path.ofString word).isAbsolute then [] else v.cwd
    match v.entry? (← v.walk true linkLimit start (wordNames word)) with
    | some e => .ok e
    | none => .error .notFound

/-! ## Reading -/

/-- The content of a file. -/
def read (v : Volume) (p : Path) : Except AccessFault (List UInt8) := do
  match ← v.find p with
  | .file content => .ok content
  | .directory => .error .isDirectory
  | .link _ => .error .notFound

/-- The text of a file, or why there is none. -/
def readText (v : Volume) (p : Path) : Except String String :=
  match v.read p with
  | .error f => .error (f.message p.text)
  | .ok content =>
    match decode content with
    | .error e => .error e.message
    | .ok text => .ok text

/-- The names in a directory. -/
def namesIn (v : Volume) (place : List String) : List String :=
  v.entries.filterMap fun (q, _) =>
    if q.length = place.length + 1 && place.isPrefixOf q then q.getLast? else none

/-- All paths below a directory, without looking behind links; `depth` bounds how deep. -/
def below (v : Volume) : Nat → List String → Path → List Path
  | 0, _, _ => []
  | depth + 1, place, p =>
    (v.namesIn place).flatMap fun n =>
      p.child n ::
        (if v.isDirectoryAt (place ++ [n]) then below v depth (place ++ [n]) (p.child n) else [])

/-- A bound for the depth of the tree. -/
def depth (v : Volume) : Nat := (v.entries.map (·.1.length)).foldl max 0 + 1

/-! ## Writing -/

/-- Writes a file; its directory has to exist. -/
def write (v : Volume) (p : Path) (content : List UInt8) : Except AccessFault Volume := do
  let place ← v.resolve true p
  match v.entry? place with
  | some .directory => .error .isDirectory
  | _ => .ok (v.put place (.file content))

/-- Removes a file or a link. -/
def remove (v : Volume) (p : Path) : Except AccessFault Volume := do
  let place ← v.resolve false p
  match v.entry? place with
  | some .directory => .error .isDirectory
  | some _ => .ok (v.erase place)
  | none => .error .notFound

/-- Makes the directories on the way to a place that are not there. -/
def makeDirectories (v : Volume) (place : List String) : Volume :=
  (List.range (place.length + 1)).foldl
    (fun v n =>
      match v.entry? (place.take n) with
      | none => v.put (place.take n) .directory
      | some _ => v)
    v

/-- Adds an entry, and the directories above it. -/
def add (v : Volume) (p : Path) (e : Entry) : Volume :=
  let place := (p.absolute v.cwdPath).names
  (v.makeDirectories place.dropLast).put place e

end Volume

end PatternLint
