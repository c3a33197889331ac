import PatternLint.Layout.Console
import PatternLint.Registry
import PatternLint.Report.CheckRun
import PatternLint.Report.Text
import PatternLint.Report.Workflow

/-!
# Reporters

The ways to report a result, by name.  A report for people depends on the width of the console; the
other reports are written as they are.
-/

namespace PatternLint

open PatternLint.Report PatternLint.Layout PatternLint.Text

inductive Reporter
  | text
  | json (indent : Option Nat)
  | checkRun (name : String)
  | workflow
  deriving DecidableEq, Repr

namespace Reporter

/-- The width of a report that is not printed on a console. -/
def reportWidth : Nat := 120

/-- The complete report. -/
def render [Console] (reporter : Reporter) (r : LintResult) : String :=
  match reporter with
  | .text => textReport reportWidth r
  | .json indent => r.toJson.render indent
  | .checkRun name => (Report.checkRun name r).render (some 2)
  | .workflow => workflowCommands r

/-- Text that goes to a console without being wrapped: silent characters are left out and tabs
become blanks. -/
def verbatim (s : String) : String :=
  String.ofList
    (List.intercalate ['\n'] ((splitOn '\n' (visible s.toList)).map expandTabs))

/-- What is printed on a console of `width` cells. -/
def print [Console] (reporter : Reporter) (width : Nat) (r : LintResult) : String :=
  match reporter with
  | .text => textReport width r
  | other => if width = 0 then "" else verbatim (other.render r) ++ "\n"

def label : Reporter → String
  | .text => "TextReporter"
  | .json _ => "JsonReporter"
  | .checkRun _ => "CheckRunReporter"
  | .workflow => "GithubActionsReporter"

/-- The reporters that are always there. -/
def registry : Registry Reporter where
  name := "reporters"
  base := "Reporter"
  implements _ := true
  label := label
  bound := [("check-run", .checkRun defaultCheckName), ("github", .workflow),
    ("json", .json (some 2)), ("text", .text)]

/-- The group under which packages provide reporters. -/
def group : String := "patlint.reporters"

end Reporter

/-- What the program finds around it. -/
class Host where
  /-- The version of the interpreter. -/
  interpreter : String
  platform : String
  /-- What installed packages provide as reporters: one of the reporters, or something that is none. -/
  provided : List (Provided Reporter)

/-- A host on which no reporters are provided. -/
instance Host.standard : Host := ⟨"3.11.0", "linux", []⟩

namespace Reporter

/-- All reporters, those that are provided included. -/
def available [Host] : Registry Reporter := (registry.load group Host.provided).value.1

/-- The reporter of a name; what is provided is looked at if the name is not known. -/
def named [Host] (name : String) : Except RegistryError Reporter :=
  if registry.contains name then registry.get name else available.get name

end Reporter

end PatternLint
