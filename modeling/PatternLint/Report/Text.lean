import PatternLint.Layout.Markup
import PatternLint.Layout.Table
import PatternLint.Lint.Result

/-!
# The report for people

Issues, a table of the findings and a summary, laid out for a console of a given width.
-/

namespace PatternLint.Report

open PatternLint.Layout

/-- Lines as they are written out, each with its line end. -/
def unlines (lines : List (List Char)) : String :=
  String.ofList (lines.flatMap fun l => l ++ ['\n'])

/-- A styled label, and marked-up text behind it. -/
def labelMarkup (style label : String) (behind : List Char) : List Char :=
  ("[" ++ style ++ "]" ++ label ++ "[/" ++ style ++ "] ").toList ++ behind

/-- A styled label and a text behind it, as it is; no console refuses its tags. -/
def labelled [Console] (style label message : String) : List Char :=
  match plain (labelMarkup style label (escape message.toList)) with
  | .ok s => s
  | .error _ => label.toList ++ ' ' :: message.toList

/-- A message on a console of `width` cells: wrapped, with long words folded; without cells nothing is shown. -/
def printed (width : Nat) (s : List Char) : List (List Char) :=
  if width = 0 then [] else wrap width .fold s

def severityCell : Severity → String
  | .error => "ERROR"
  | .warning => "WARNING"

/-- Where an annotation is; the end only if it is on another line. -/
def location (a : Annotation) : String :=
  let start := toString a.startLine ++ ":" ++ toString a.startColumn
  if a.isMultiline then
    start ++ "-" ++ toString a.endLine ++ ":" ++ toString a.endColumn
  else start

def annotationTable (annotations : List Annotation) : Table where
  title := "Lint results".toList
  columns := [⟨"Severity", 8⟩, ⟨"File", 0⟩, ⟨"Location", 8⟩, ⟨"Rule", 0⟩, ⟨"Message", 0⟩]
  rows := annotations.map fun a => [severityCell a.severity, a.file, location a, a.rule, a.message]

def summaryLine (r : LintResult) : String :=
  "Summary: " ++ toString r.errorCount ++ " error(s), " ++ toString r.warningCount ++
    " warning(s) in " ++ toString r.filesScanned ++ " file(s) - " ++
    (if r.passed then "PASSED" else "FAILED")

/-- The report for a console of `width` cells. -/
def textReport [Console] (width : Nat) (r : LintResult) : String :=
  let issues := r.issues.flatMap fun i => printed width (labelled "yellow" "Warning:" i.message)
  let table :=
    if r.annotations.isEmpty then []
    else inCells width ((annotationTable r.annotations).lines width)
  unlines (issues ++ table ++ printed width ('\n' :: (summaryLine r).toList))

end PatternLint.Report
