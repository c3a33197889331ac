import PatternLint.Command.Arguments
import PatternLint.Text.Blank
import PatternLint.Text.Letter
import PatternLint.Volume

/-!
# Settings

Turns what was given into the settings of a command.  Values are checked in the order of the call, then
the operands, and what is missing comes last.
-/

namespace PatternLint.Command

open PatternLint.Text

/-! ## Numbers -/

/-- Digits of any script, with single low lines between them. -/
def readDigits (n : Nat) : List Char → Option Nat
  | [] => some n
  | '_' :: c :: rest => do
    let d ← digitValue? c.toNat
    readDigits (10 * n + d) rest
  | c :: rest => do
    let d ← digitValue? c.toNat
    readDigits (10 * n + d) rest

/-- The most digits that a number may have. -/
def digitLimit : Nat := 4300

/-- An unsigned whole number. -/
def unsigned? : List Char → Option Nat
  | [] => none
  | '_' :: _ => none
  | s => if digitLimit < s.countP (· != '_') then none else readDigits 0 s

/-- A whole number with blanks around it. -/
def wholeNumber? (s : String) : Option Int :=
  match strip s.toList with
  | '-' :: rest => (unsigned? rest).map fun n => -(n : Int)
  | '+' :: rest => (unsigned? rest).map fun n => (n : Int)
  | rest => (unsigned? rest).map fun n => (n : Int)

/-! ## Checking values -/

def isDirectory (v : Volume) (word : String) : Bool := v.findWord word matches .ok .directory

def isFile (v : Volume) (word : String) : Bool := v.findWord word matches .ok (.file _)

/-- Why a value is not one of its kind. -/
def valueFault? (v : Volume) (kind : ValueKind) (value : String) : Option String :=
  match kind with
  | .text => none
  | .file =>
    if value != "" && isDirectory v value then some ("File " ++ quoted value ++ " is a directory.")
    else none
  | .directory =>
    if value != "" && isFile v value then some ("Directory " ++ quoted value ++ " is a file.")
    else none
  | .positive =>
    match wholeNumber? value with
    | none => some (quoted value ++ " is not a valid integer range.")
    | some n => if n < 1 then some (toString n ++ " is not in the range x>=1.") else none

def checkValue (v : Volume) (subject : String) (kind : ValueKind) (value : String) :
    Except UsageError Unit :=
  match valueFault? v kind value with
  | some reason => .error (.badValue subject reason)
  | none => .ok ()

/-- Checks the last value of each switch, in the order in which the switches were first given. -/
def checkSwitches (v : Volume) (g : Given) : Except UsageError Unit :=
  (g.switches.map (·.1)).eraseDups.forM fun s =>
    match s.takes?, g.value? s with
    | some kind, some value => checkValue v s.mention kind value
    | _, _ => .ok ()

/-! ## Settings of the commands -/

structure LintSettings where
  paths : List String
  rules : String
  format : String
  strict : Bool
  failOnUnreadable : Bool
  root : Option String
  output : Option String
  deriving DecidableEq, Repr

/-- A call that asks for something to be done. -/
inductive Task
  | lint (s : LintSettings)
  | checkRules (file : String)
  | schema (output : Option String)
  | reporters
  | version
  deriving DecidableEq, Repr

/-- The variable that names the rule file where no switch does. -/
def rulesVariable : String := "PATLINT_RULES"

/-- A text that counts only if it is not empty. -/
def nonEmpty (s : Option String) : Option String := s.filter (· != "")

/-- The rule file: from the switch, or else from the environment. -/
def rulesFile (v : Volume) (env : List (String × String)) (g : Given) : Except UsageError String :=
  match g.value? .rules with
  | some file => .ok file
  | none =>
    match nonEmpty (env.lookup rulesVariable) with
    | some file => do
      checkValue v Switch.rules.mention .file file
      .ok file
    | none => .error (.switchMissing .rules)

/-- No operands may be left over. -/
def checkRest : List String → Except UsageError Unit
  | [] => .ok ()
  | words => .error (.operandsLeft words)

/-- The task of a command. -/
def Task.ofGiven (v : Volume) (env : List (String × String)) (c : Verb) (g : Given) :
    Except UsageError Task := do
  checkSwitches v g
  match c, g.operands with
  | .lint, [] => .error (.operandMissing "PATHS...")
  | .lint, paths =>
    let rules ← rulesFile v env g
    .ok (.lint {
      paths, rules
      format := (g.value? .format).getD "text"
      strict := g.has .strict
      failOnUnreadable := g.has .failOnUnreadable
      root := nonEmpty (g.value? .root)
      output := nonEmpty (g.value? .output) })
  | .checkRules, [] => .error (.operandMissing "FILE")
  | .checkRules, file :: rest =>
    checkValue v "'FILE'" .file file
    checkRest rest
    .ok (.checkRules file)
  | .schema, rest =>
    checkRest rest
    .ok (.schema (nonEmpty (g.value? .output)))
  | .reporters, rest =>
    checkRest rest
    .ok .reporters
  | .version, rest =>
    checkRest rest
    .ok .version

end PatternLint.Command
