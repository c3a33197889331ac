import PatternLint.Lint.Result

/-!
# Check-run payloads

The object that a checks service takes: at most fifty annotations are included, the others are
counted; columns are given only for annotations on one line.
-/

namespace PatternLint.Report

open PatternLint.Text

def maxAnnotations : Nat := 50

def defaultCheckName : String := "patlint"

def checkLevel : Severity → String
  | .error => "failure"
  | .warning => "warning"

/-- One annotation of the payload. -/
def checkAnnotation (a : Annotation) : Json :=
  .obj ([("path", .str a.file), ("start_line", .int a.startLine), ("end_line", .int a.endLine),
      ("annotation_level", .str (checkLevel a.severity)), ("title", .str a.title),
      ("message", .str a.message)] ++
    if a.startLine = a.endLine then
      [("start_column", .int a.startColumn), ("end_column", .int a.endColumn)]
    else [])

def conclusion (r : LintResult) : String :=
  if !r.passed then "failure"
  else if r.annotations.isEmpty then "success"
  else "neutral"

/-- The lines of the payload's text: counts, what is not shown, and the issues. -/
def checkLines (r : LintResult) : List String :=
  let hidden := r.annotations.length - maxAnnotations
  let counts :=
    toString r.errorCount ++ " error(s) and " ++ toString r.warningCount ++ " warning(s) in " ++
      toString r.filesScanned ++ " file(s)."
  let more :=
    if 0 < hidden then [toString hidden ++ " more annotation(s) not shown."] else []
  counts :: more ++ r.issues.map Issue.line

/-- The payload for a result under a check name. -/
def checkRun (name : String) (r : LintResult) : Json :=
  .obj [("name", .str name), ("status", .str "completed"), ("conclusion", .str (conclusion r)),
    ("output", .obj [("title", .str name),
      ("summary", .str (toString r.errorCount ++ " error(s) found")),
      ("text", .str (joinWith "\n" (checkLines r))),
      ("annotations", .arr ((r.annotations.take maxAnnotations).map checkAnnotation))])]

end PatternLint.Report
