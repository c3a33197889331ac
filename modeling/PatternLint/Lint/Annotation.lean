import PatternLint.Json
import PatternLint.Position
import PatternLint.Rule

/-!
# Annotations

An annotation is one finding: a span of a file, the rule that matched there and its message.  The end
column points behind the last matched character.
-/

namespace PatternLint

open PatternLint.Text

structure Annotation where
  title : String
  file : String
  startLine : Int
  endLine : Int
  startColumn : Int
  endColumn : Int
  message : String
  severity : Severity
  rule : String
  deriving DecidableEq, Repr

namespace Annotation

def titleOf (rule : String) : String := "Pattern lint violation: " ++ rule

/-- Rule name, matched text and documentation, one below the other. -/
def messageOf (r : Rule) (matched : String) : String :=
  let head := r.name ++ "\nMatched: " ++ matched
  match r.documentation with
  | none => head
  | some doc => if doc.isEmpty then head else head ++ "\n" ++ doc

/-- The finding for a match that spans two positions of a file. -/
def ofMatch (path : String) (r : Rule) (m : Match) (start stop : Position) : Annotation where
  title := titleOf r.name
  file := path
  startLine := start.line
  endLine := stop.line
  startColumn := start.column
  endColumn := stop.column
  message := messageOf r m.text
  severity := r.severity
  rule := r.name

def isError (a : Annotation) : Bool := a.severity == .error

def isMultiline (a : Annotation) : Bool := a.startLine < a.endLine

/-- The first line of the message; there is none in an empty message. -/
def firstLine? (a : Annotation) : Option String :=
  ((splitLines a.message.toList).head?).map String.ofList

/-- The annotation on one line. -/
def line? (a : Annotation) : Option String :=
  a.firstLine?.map fun l =>
    a.file ++ ":" ++ toString a.startLine ++ ":" ++ toString a.startColumn ++ ": " ++
      a.severity.name ++ ": [" ++ a.rule ++ "] " ++ l

/-- A warning becomes an error. -/
def promote (a : Annotation) : Annotation := { a with severity := .error }

def toJson (a : Annotation) : Json :=
  .obj [("title", .str a.title), ("file", .str a.file), ("start_line", .int a.startLine),
    ("end_line", .int a.endLine), ("start_column", .int a.startColumn),
    ("end_column", .int a.endColumn), ("message", .str a.message),
    ("severity", .str a.severity.name), ("rule", .str a.rule)]

end Annotation

end PatternLint
