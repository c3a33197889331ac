import PatternLint.Lint.Result

/-!
# Workflow commands

One command per line, which a build runner turns into an annotation.  Percent signs and line ends are
written as codes, in properties also colons and commas, so that nothing inside a value can end it.
-/

namespace PatternLint.Report

open PatternLint.Text

/-- A text with a code in the place of every `c`. -/
def encodeChar (c : Char) (code : List Char) (s : List Char) : List Char :=
  s.flatMap fun d => if d = c then code else [d]

/-- The percent sign comes first, since every code starts with it. -/
def escapeDataChars (s : List Char) : List Char :=
  encodeChar '\n' ['%', '0', 'A'] (encodeChar '\r' ['%', '0', 'D'] (encodeChar '%' ['%', '2', '5'] s))

def escapeData (s : String) : String := String.ofList (escapeDataChars s.toList)

def escapeProperty (s : String) : String :=
  String.ofList
    (encodeChar ',' ['%', '2', 'C'] (encodeChar ':' ['%', '3', 'A'] (escapeDataChars s.toList)))

/-- The properties of a command, by name. -/
def commandProperties (a : Annotation) : List (String × String) :=
  [("file", a.file), ("line", toString a.startLine), ("endLine", toString a.endLine)] ++
    (if a.startLine = a.endLine then
      [("col", toString a.startColumn), ("endColumn", toString a.endColumn)]
    else []) ++
    [("title", a.title)]

/-- The command for an annotation. -/
def workflowCommand (a : Annotation) : String :=
  let props := (commandProperties a).map fun (k, v) => k ++ "=" ++ escapeProperty v
  "::" ++ a.severity.name ++ " " ++ joinWith "," props ++ "::" ++ escapeData a.message

def issueCommand (i : Issue) : String := "::warning::" ++ escapeData i.message

/-- The commands for a result: its issues, then its annotations. -/
def workflowCommands (r : LintResult) : String :=
  joinWith "\n" (r.issues.map issueCommand ++ r.annotations.map workflowCommand)

end PatternLint.Report
