import PatternLint.Json
import PatternLint.RuleSet.Problem

/-!
# Issues

Dropped rules and unreadable files do not stop a run; they are reported beside its findings.
-/

namespace PatternLint

inductive IssueKind
  | droppedRule
  | invalidRule
  | unreadableFile
  deriving DecidableEq, Repr

namespace IssueKind

def all : List IssueKind := [.droppedRule, .invalidRule, .unreadableFile]

def name : IssueKind → String
  | .droppedRule => "dropped-rule"
  | .invalidRule => "invalid-rule"
  | .unreadableFile => "unreadable-file"

def ofName? (s : String) : Option IssueKind := all.find? fun k => k.name == s

/-- What is said about a name that no kind has. -/
def unknownMessage (s : String) : String := Text.quoted s ++ " is not a valid IssueKind"

end IssueKind

structure Issue where
  kind : IssueKind
  /-- The rule or the file concerned. -/
  subject : String
  message : String
  deriving DecidableEq, Repr

namespace Issue

def ofDropped (d : DroppedRule) : Issue where
  kind := match d with | .invalid _ _ _ => .invalidRule | .uncompilable _ _ _ => .droppedRule
  subject := d.ruleName
  message := d.message

def ofFile (e : FileAccessError) : Issue where
  kind := .unreadableFile
  subject := e.path
  message := e.message

/-- The issue on one line. -/
def line (i : Issue) : String := "[" ++ i.kind.name ++ "] " ++ i.message

def toJson (i : Issue) : Json :=
  .obj [("kind", .str i.kind.name), ("subject", .str i.subject), ("message", .str i.message)]

end Issue

end PatternLint
