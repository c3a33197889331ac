import PatternLint.Command.Spec
import PatternLint.Text.Quoted
import PatternLint.Text.Similarity

/-!
# Wrong calls

What can be wrong with the words of a call, and what is said about it.
-/

namespace PatternLint.Command

open PatternLint.Text

inductive UsageError
  | unknownSwitch (name : String) (similar : List String)
  | valueMissing (name : String)
  | valueUnexpected (name : String)
  | commandMissing
  | unknownCommand (name : String)
  | operandMissing (name : String)
  | switchMissing (s : Switch)
  /-- A value that a switch or an operand does not take; `subject` says which. -/
  | badValue (subject reason : String)
  | operandsLeft (words : List String)
  deriving DecidableEq, Repr

/-- The spellings of a switch in a message. -/
def Switch.mention (s : Switch) : String :=
  let names := match s.short? with
    | some n => [s.long, n]
    | none => [s.long]
  joinWith " / " (names.map fun n => "'" ++ n ++ "'")

namespace UsageError

def suggestion : List String → String
  | [] => ""
  | [name] => " Did you mean " ++ quoted name ++ "?"
  | names => " (Possible options: " ++ joinWith ", " (names.map quoted) ++ ")"

def message : UsageError → String
  | .unknownSwitch name similar => "No such option " ++ quoted name ++ "." ++ suggestion similar
  | .valueMissing name => "Option " ++ quoted name ++ " requires an argument."
  | .valueUnexpected name => "Option " ++ quoted name ++ " does not take a value."
  | .commandMissing => "Missing command."
  | .unknownCommand name => "No such command " ++ quoted name ++ "."
  | .operandMissing name => "Missing argument '" ++ name ++ "'."
  | .switchMissing s => "Missing option " ++ s.mention ++ "."
  | .badValue subject reason => "Invalid value for " ++ subject ++ ": " ++ reason
  | .operandsLeft words =>
    "Got unexpected extra argument" ++ (if words.length = 1 then "" else "s") ++ " (" ++
      joinWith " " words ++ ")"

/-- Whether the usage is shown with the message. -/
def showsUsage : UsageError → Bool
  | .valueMissing _ | .valueUnexpected _ => false
  | _ => true

/-- What is printed about a wrong call. -/
def report (l : Level) (e : UsageError) : String :=
  let usage :=
    if e.showsUsage then
      l.usage ++ "\nTry '" ++ l.call ++ " --help' for help.\n\n"
    else ""
  usage ++ "Error: " ++ e.message ++ "\n"

end UsageError

end PatternLint.Command
