import PatternLint.Text.Blank
import PatternLint.Text.LetterCase
import PatternLint.Text.Quoted

/-!
# Severities

A finding is a warning or an error; only errors make a run fail.
-/

namespace PatternLint

open PatternLint.Text

inductive Severity
  | warning
  | error
  deriving DecidableEq, Repr

namespace Severity

def all : List Severity := [.warning, .error]

def name : Severity → String
  | .warning => "warning"
  | .error => "error"

/-- The severity of a name, in any case and between any blanks. -/
def ofName? (s : String) : Option Severity :=
  let key := toLower (strip s.toList)
  all.find? fun v => v.name.toList == key

/-- What is said about a name that no severity has. -/
def unknownMessage (s : String) : String :=
  "unknown severity " ++ quoted s ++ " (expected one of: " ++
    joinWith ", " (all.map name) ++ ")"

end Severity

end PatternLint
