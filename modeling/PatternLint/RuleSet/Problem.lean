import PatternLint.Text.Quoted

/-!
# Unusable documents, rules and files

A document that is unusable as a whole stops everything; a rule that cannot be used is dropped and a
file that cannot be read is skipped, and both are reported beside the result.
-/

namespace PatternLint

open PatternLint.Text

/-- The document is unusable as a whole. -/
structure ConfigurationError where
  summary : String
  problems : List String
  deriving DecidableEq, Repr

namespace ConfigurationError

def message (e : ConfigurationError) : String :=
  e.summary ++ String.join (e.problems.map fun p => "\n  - " ++ p)

end ConfigurationError

/-- A rule that was left out of the rule set. -/
inductive DroppedRule
  /-- The entry at `index` is malformed; `name` is its name, if that is usable. -/
  | invalid (index : Int) (name : Option String) (problems : List String)
  /-- The pattern was refused. -/
  | uncompilable (name pattern reason : String)
  deriving DecidableEq, Repr

namespace DroppedRule

def place (index : Int) : String := "rules[" ++ toString index ++ "]"

/-- The name of the rule, or its place if it has none. -/
def ruleName : DroppedRule → String
  | .invalid _ (some name) _ => name
  | .invalid index none _ => place index
  | .uncompilable name _ _ => name

def message : DroppedRule → String
  | .invalid index name problems =>
    let subject :=
      match name with
      | some n => place index ++ " (" ++ n ++ ")"
      | none => place index
    "Rule entry " ++ subject ++ " dropped: " ++ joinWith "; " problems
  | .uncompilable name pattern reason =>
    "Rule " ++ quoted name ++ " dropped: invalid pattern " ++ quoted pattern ++ " (" ++ reason ++ ")"

end DroppedRule

/-- A file that could not be read. -/
structure FileAccessError where
  path : String
  reason : String
  deriving DecidableEq, Repr

namespace FileAccessError

def message (e : FileAccessError) : String := "Cannot read " ++ e.path ++ ": " ++ e.reason

/-- What is said when unreadable files stop a run. -/
def groupMessage : List FileAccessError → String
  | [] => "FileAccessErrorGroup (no errors)"
  | errors =>
    joinWith "\n"
      (("FileAccessErrorGroup (" ++ toString errors.length ++ " unreadable file(s)):") ::
        errors.map fun e => "  " ++ e.message)

end FileAccessError

end PatternLint
