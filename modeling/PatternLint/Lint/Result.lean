import PatternLint.Lint.Annotation
import PatternLint.Lint.Issue

/-!
# Results of a run
-/

namespace PatternLint

inductive Verdict
  | passing
  | failing
  deriving DecidableEq, Repr

namespace Verdict

def name : Verdict → String
  | .passing => "passing"
  | .failing => "failing"

end Verdict

structure LintResult where
  /-- Findings by file, then by rule, then from left to right. -/
  annotations : List Annotation
  issues : List Issue
  /-- The number of files whose text was examined. -/
  filesScanned : Nat
  deriving DecidableEq, Repr

namespace LintResult

def empty : LintResult := ⟨[], [], 0⟩

/-- A run fails exactly when one of its findings is an error. -/
def verdict (r : LintResult) : Verdict :=
  if r.annotations.any (·.isError) then .failing else .passing

def passed (r : LintResult) : Bool := r.verdict == .passing

def errorCount (r : LintResult) : Nat := r.annotations.countP (·.isError)

def warningCount (r : LintResult) : Nat := r.annotations.countP (·.severity == .warning)

def issuesOf (r : LintResult) (kind : IssueKind) : List Issue :=
  r.issues.filter (·.kind == kind)

/-- Further issues in front of those of the run. -/
def withLeadingIssues (r : LintResult) (issues : List Issue) : LintResult :=
  { r with issues := issues ++ r.issues }

def toJson (r : LintResult) : Json :=
  .obj [("verdict", .str r.verdict.name),
    ("summary", .obj [("files_scanned", .int r.filesScanned), ("errors", .int r.errorCount),
      ("warnings", .int r.warningCount)]),
    ("annotations", .arr (r.annotations.map Annotation.toJson)),
    ("issues", .arr (r.issues.map Issue.toJson))]

end LintResult

end PatternLint
