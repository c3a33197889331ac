import PatternLint.Lint.Result
import PatternLint.RuleSet.Reading

/-!
# The lint engine

Every file is examined by itself: each rule that applies to its path is searched for in the whole
text, and the offsets of the matches are turned into lines and columns.  Findings come in the order
of the files, then of the rules, then from left to right.
-/

namespace PatternLint

/-- How a run is made. -/
structure Engine where
  ruleSet : RuleSet
  /-- Whether warnings count as errors. -/
  strict : Bool
  /-- Whether a file that cannot be read stops the run. -/
  failOnUnreadable : Bool

/-- Why no engine can be set up. -/
inductive EngineError
  | tooFewWorkers
  deriving DecidableEq, Repr

namespace EngineError

def message : EngineError → String
  | .tooFewWorkers => "max_workers must be at least 1"

end EngineError

/-- Why a run gives no result. -/
inductive RunFailure
  | unreadable (errors : List FileAccessError)
  /-- A match does not lie in its text. -/
  | outside (e : OffsetError)
  /-- A path that holds a null character names no file. -/
  | nullInPath
  deriving DecidableEq, Repr

namespace Engine

/-- Sets up an engine; a bound on the number of workers has to admit one. -/
def create (ruleSet : RuleSet) (maxWorkers : Option Int) (strict failOnUnreadable : Bool) :
    Except EngineError Engine :=
  if maxWorkers.any (· < 1) then .error .tooFewWorkers
  else .ok ⟨ruleSet, strict, failOnUnreadable⟩

/-- The finding of one match; a strict run makes errors of warnings. -/
def annotate (strict : Bool) (path : String) (index : LineIndex) (r : Rule) (m : Match) :
    Except OffsetError Annotation := do
  let start ← index.position m.start
  let stop ← index.position m.stop
  let a := Annotation.ofMatch path r m start stop
  return if strict && a.severity == .warning then a.promote else a

/-- The findings of some rules in one text.  Rules with a scope of their own are tested one by one,
`globally` stands for all others.  The table of line starts is made for the first rule that is found
and handed on to the later ones. -/
def lintRules (strict : Bool) (path text : String) (globally : Bool) :
    Option LineIndex → List Rule → Except OffsetError (List Annotation)
  | _, [] => .ok []
  | table, r :: rules =>
    if (if r.scope.isSet then r.scope.admits path else globally) then
      match r.findMatches text with
      | [] => lintRules strict path text globally table rules
      | first :: more => do
        let index := table.getD (LineIndex.ofText text.toList)
        let found ← (first :: more).mapM (annotate strict path index r)
        let later ← lintRules strict path text globally (some index) rules
        return found ++ later
    else lintRules strict path text globally table rules

/-- The findings in one file. -/
def lintText (e : Engine) (path text : String) : Except OffsetError (List Annotation) :=
  let path := Path.normalize path
  lintRules e.strict path text (e.ruleSet.scope.admits path) none e.ruleSet.rules

/-- A file to be examined: its path and its text, or why it cannot be read. -/
structure Job where
  path : String
  text : Except String String

/-- What has come of a file. -/
structure FileOutcome where
  annotations : List Annotation
  error : Option FileAccessError

namespace FileOutcome

/-- The outcome of a file that is still to be examined. -/
def pending : FileOutcome := ⟨[], none⟩

end FileOutcome

def evaluate (e : Engine) (job : Job) : Except OffsetError FileOutcome :=
  match job.text with
  | .error reason => .ok ⟨[], some ⟨job.path, reason⟩⟩
  | .ok text => (e.lintText job.path text).map (⟨·, none⟩)

/-- Puts the outcome of each job in its place, in the order in which the jobs finish. -/
def gather (e : Engine) (jobs : List Job) :
    List Nat → List FileOutcome → Except OffsetError (List FileOutcome)
  | [], outcomes => .ok outcomes
  | i :: order, outcomes =>
    match jobs[i]? with
    | none => gather e jobs order outcomes
    | some job => do
      let outcome ← e.evaluate job
      gather e jobs order (outcomes.set i outcome)

/-- Runs over all jobs, which finish in the given order; unreadable files are issues, or stop the
run. -/
def runInOrder (e : Engine) (order : List Nat) (jobs : List Job) : Except RunFailure LintResult :=
  match e.gather jobs order (jobs.map fun _ => .pending) with
  | .error f => .error (.outside f)
  | .ok outcomes =>
    let errors := outcomes.filterMap (·.error)
    if e.failOnUnreadable && !errors.isEmpty then .error (.unreadable errors)
    else
      .ok {
        annotations := outcomes.flatMap (·.annotations)
        issues := errors.map Issue.ofFile
        filesScanned := jobs.length - errors.length }

/-- Runs over all jobs, one after the other. -/
def runJobs (e : Engine) (jobs : List Job) : Except RunFailure LintResult :=
  e.runInOrder (List.range jobs.length) jobs

/-- The jobs of files whose texts are at hand. -/
def jobsOf (files : List (String × String)) : List Job := files.map fun f => ⟨f.1, .ok f.2⟩

/-- Runs over files whose texts are at hand. -/
def run (e : Engine) (files : List (String × String)) : Except RunFailure LintResult :=
  e.runJobs (jobsOf files)

end Engine

/-- Why a document could not be linted with. -/
inductive LintFailure
  | reading (e : ReadFailure)
  | engine (e : EngineError)
  | run (e : RunFailure)
  deriving DecidableEq, Repr

/-- Lints files with the rules of a document; dropped rules are issues. -/
def lintDocument (d : Document) (files : List (String × String)) (strict : Bool)
    (maxWorkers : Option Int) : Except LintFailure LintResult :=
  match (RuleSet.ofDocument d).value with
  | .error e => .error (.reading e)
  | .ok parsed =>
    match Engine.create parsed.ruleSet maxWorkers strict false with
    | .error e => .error (.engine e)
    | .ok engine =>
      match engine.run files with
      | .error e => .error (.run e)
      | .ok r => .ok (r.withLeadingIssues (parsed.dropped.map Issue.ofDropped))

end PatternLint
