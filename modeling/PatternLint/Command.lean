import PatternLint.Command.Collect
import PatternLint.Command.Help
import PatternLint.Command.Settings
import PatternLint.Lint.Paths
import PatternLint.Report
import PatternLint.RuleSet.Loading
import PatternLint.Schema

/-!
# The program

`run` maps the words of a call, the environment and a volume to all that the call does: what it prints,
its exit code and the volume after it.  The exit code is 0 for a passing verdict, 1 for a failing one or
a dropped rule, and 2 if the rule set or the call is unusable.
-/

namespace PatternLint.Command

open PatternLint.Layout PatternLint.Report PatternLint.Text

/-- What ends the program without an answer of its own. -/
inductive Crash
  | load (e : LoadFailure)
  | access (f : AccessFault) (p : Path)
  | markup (e : MarkupError)
  | nullInPath
  | outside (e : OffsetError)

structure Outcome where
  code : Nat
  out : String
  err : String
  crash : Option Crash
  volume : Volume

namespace Outcome

def done (v : Volume) (out : String) : Outcome := ⟨0, out, "", none, v⟩

/-- A failing verdict. -/
def failing (v : Volume) (out : String) : Outcome := ⟨1, out, "", none, v⟩

def refused (v : Volume) (err : String) : Outcome := ⟨2, "", err, none, v⟩

def crashed (v : Volume) (out : String) (c : Crash) : Outcome := ⟨1, out, "", some c, v⟩

/-- Passing or failing, as the flag says. -/
def verdict (passed : Bool) (v : Volume) (out : String) : Outcome :=
  if passed then done v out else failing v out

end Outcome

section Console

variable [Console]

/-- A message on the console. -/
def printedMessage (s : List Char) : String := unlines (printed Console.width s)

/-- An error on the console. -/
def errorText (message : String) : String := printedMessage (labelled "red" "Error:" message)

/-! ## Rule sets -/

/-- Goes on with a rule set, or says why there is none. -/
def withRules (v : Volume) (file : String) (go : Parsed → Outcome) : Outcome :=
  match (RuleSet.load v file).value with
  | .ok parsed => go parsed
  | .error (.document (.unusable e)) => .refused v (errorText e.message)
  | .error e => .crashed v "" (.load e)

/-- Writes a text to a file and says so; the name of the file is read as markup. -/
def writeOut (v : Volume) (what file text : String) (passed : Bool) : Outcome :=
  let p := Path.ofString file
  match v.write p (encode text) with
  | .error f => .crashed v "" (.access f p)
  | .ok v =>
    match plain ("[green]" ++ what ++ " written to[/green] " ++ file).toList with
    | .error e => .crashed v "" (.markup e)
    | .ok s => .verdict passed v (printedMessage s)

/-! ## Commands -/

/-- The report goes to a file or to the console. -/
def deliver (v : Volume) (s : LintSettings) (reporter : Reporter) (r : LintResult) : Outcome :=
  match s.output with
  | some file => writeOut v "Report" file (reporter.render r) r.passed
  | none => .verdict r.passed v (reporter.print Console.width r)

def lint [Host] (v : Volume) (s : LintSettings) : Outcome :=
  match Reporter.named s.format with
  | .error e => .refused v (errorText e.message)
  | .ok reporter =>
    withRules v s.rules fun parsed =>
      let root := match s.root with
        | some r => Path.ofString r
        | none => v.cwdPath
      match collect v root s.paths with
      | .error (f, p) => .crashed v "" (.access f p)
      | .ok files =>
        let engine : Engine := ⟨parsed.ruleSet, s.strict, s.failOnUnreadable⟩
        match engine.runPaths v files (some root) with
        | .error (.unreadable errors) => .refused v (errorText (FileAccessError.groupMessage errors))
        | .error .nullInPath => .crashed v "" .nullInPath
        | .error (.outside e) => .crashed v "" (.outside e)
        | .ok r => deliver v s reporter (r.withLeadingIssues (parsed.dropped.map Issue.ofDropped))

/-- The table of a rule set. -/
def ruleTable (title : List Char) (rules : List Rule) : Table where
  title := title
  columns := [⟨"Name", 0⟩, ⟨"Severity", 8⟩, ⟨"Scope", 0⟩, ⟨"Pattern", 0⟩]
  rows := rules.map fun r =>
    [r.name, r.severity.name, if r.scope.isSet then "override" else "global", r.pattern]

/-- How many rules there are, and how many were dropped. -/
def ruleCount (kept dropped : Nat) : List Char :=
  ("\n" ++ toString kept ++ " rule(s) loaded, " ++ toString dropped ++ " dropped").toList

def checkRules (v : Volume) (file : String) : Outcome :=
  withRules v file fun parsed =>
    match plain ("Rules: " ++ file).toList with
    | .error e => .crashed v "" (.markup e)
    | .ok title =>
      let width := Console.width
      let table := inCells width ((ruleTable title parsed.ruleSet.rules).lines width)
      let dropped := parsed.dropped.flatMap fun d => printed width (labelled "red" "Dropped:" d.message)
      let count := printed width
        (ruleCount parsed.ruleSet.rules.length parsed.dropped.length)
      .verdict parsed.dropped.isEmpty v (unlines (table ++ dropped ++ count))

def schema (v : Volume) (output : Option String) : Outcome :=
  let text := Schema.text 2
  match output with
  | some file => writeOut v "Schema" file text true
  | none =>
    let width := Console.width
    .done v (unlines (inCells width ((splitOn '\n' text.toList).map (fit width))))

variable [Host]

def reporters (v : Volume) : Outcome :=
  let lines := "Available reporters:" :: Reporter.available.names.map ("  " ++ ·)
  .done v (unlines (lines.flatMap fun l => printed Console.width l.toList))

/-- What is installed. -/
def versionTable : Table where
  title := []
  columns := [⟨"", 0⟩, ⟨"", 0⟩]
  rows := [[program, "v" ++ programVersion], ["Python", Host.interpreter], ["Platform", Host.platform]]

def version (v : Volume) : Outcome :=
  let width := Console.width
  .done v (unlines (inCells width (versionTable.bareLines width)))

def perform (v : Volume) : Task → Outcome
  | .lint s => lint v s
  | .checkRules file => checkRules v file
  | .schema output => schema v output
  | .reporters => reporters v
  | .version => version v

/-! ## Calls -/

/-- A switch that is answered before anything else is looked at. -/
def answeredFirst? (l : Level) (g : Given) : Option String :=
  g.switches.findSome? fun (s, _) =>
    match s with
    | .help => some (help l)
    | .version => some (program ++ ", version " ++ programVersion ++ "\n")
    | _ => none

/-- A call of a command. -/
def runCommand (v : Volume) (env : List (String × String)) (c : Verb) (words : List String) :
    Outcome :=
  let l := Level.command c
  match Given.ofWords l words with
  | .error e => .refused v (e.report l)
  | .ok g =>
    match answeredFirst? l g with
    | some text => .done v text
    | none =>
      match Task.ofGiven v env c g with
      | .error e => .refused v (e.report l)
      | .ok task => perform v task

end Console

/-- A call of the program, on a console in its environment. -/
def run [Console] [Host] (v : Volume) (env : List (String × String)) (words : List String) : Outcome :=
  letI := Console.inEnvironment env
  let l := Level.general
  if words.isEmpty then .refused v (help l)
  else
    match Given.ofWords l words with
    | .error e => .refused v (e.report l)
    | .ok g =>
      match answeredFirst? l g, g.operands with
      | some text, _ => .done v text
      | none, [] => .refused v (UsageError.commandMissing.report l)
      | none, name :: rest =>
        match Verb.ofName? name with
        | none => .refused v ((UsageError.unknownCommand name).report l)
        | some c => runCommand v env c rest

end PatternLint.Command
