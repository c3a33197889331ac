import PatternLint.Command.Spec
import PatternLint.Text.Lines

/-!
# Help

The help of a command: its usage, what it does, and its switches in two columns.  It is laid out for 80
characters to a line; that an environment can ask for shorter lines is not modelled.
-/

namespace PatternLint.Command

open PatternLint.Text

/-- The width of the help. -/
def helpWidth : Nat := 80

/-- The widest entry of the first column. -/
def columnLimit : Nat := 30

/-! ## Filling lines -/

/-- A word and the number of spaces before it. -/
abbrev SpacedWord := Nat × String

/-- The words of a text; `spaces` stand before the next one. -/
def spacedWords (spaces : Nat) : List String → List SpacedWord
  | [] => []
  | "" :: rest => spacedWords (spaces + 1) rest
  | w :: rest => (spaces, w) :: spacedWords 1 rest

def spaces (n : Nat) : String := String.ofList (List.replicate n ' ')

/-- Fills lines of at most `width` characters; `line` is the line under way. -/
def fillFrom (width : Nat) (line : String) : List SpacedWord → List String
  | [] => [line]
  | (n, w) :: rest =>
    if line.length + n + w.length ≤ width then fillFrom width (line ++ spaces n ++ w) rest
    else line :: fillFrom width w rest

/-- A text in lines of at most `width` characters, broken between words only. -/
def fill (width : Nat) (s : String) : List String :=
  match spacedWords 0 (pieces ' ' s) with
  | [] => [""]
  | (_, w) :: rest => fillFrom width w rest

/-! ## Columns -/

/-- One entry: a name and what is said about it, in lines that start at column `first`. -/
def entryLines (first : Nat) (entry : String × String) : List String :=
  let said := fill (max (helpWidth - first - 2) 10) entry.2
  let margin := spaces (first + 2)
  if entry.1.length ≤ first - 2 then
    match said with
    | [] => ["  " ++ entry.1]
    | line :: rest =>
      ("  " ++ entry.1 ++ spaces (first - entry.1.length) ++ line) :: rest.map (margin ++ ·)
  else ("  " ++ entry.1) :: said.map (margin ++ ·)

def columns (entries : List (String × String)) : List String :=
  let widest := (entries.map (·.1.length)).foldl max 0
  entries.flatMap (entryLines (min widest columnLimit + 2))

/-! ## The help of a level -/

def ValueKind.label : ValueKind → String
  | .text => "TEXT"
  | .file => "FILE"
  | .directory => "DIRECTORY"
  | .positive => "INTEGER RANGE"

/-- The spellings of a switch and what it takes. -/
def Switch.spelling (s : Switch) : String :=
  let names := match s.short? with
    | some n => n ++ ", " ++ s.long
    | none => s.long
  match s.takes? with
  | some kind => names ++ " " ++ kind.label
  | none => names

def sayings : Level → List String
  | .general => [generalSummary]
  | .command c => c.summary :: c.details

def helpLines (l : Level) : List String :=
  let said := (sayings l).flatMap fun s => "" :: (fill helpWidth s).map ("  " ++ ·)
  let options := "" :: "Options:" ::
    columns (l.offers.map fun o => (o.switch.spelling, o.does))
  let commands := match l with
    | .general => "" :: "Commands:" :: columns (Verb.all.map fun c => (c.name, c.summary))
    | .command _ => []
  l.usage :: (said ++ options ++ commands)

/-- The help as it is printed. -/
def help (l : Level) : String := String.join ((helpLines l).map (· ++ "\n"))

end PatternLint.Command
