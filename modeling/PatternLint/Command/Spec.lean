/-!
# What the command line offers

The commands, the switches that each of them knows and the operands that it takes.
-/

namespace PatternLint.Command

/-- The name under which the program is called. -/
def program : String := "patlint"

def programVersion : String := "0.1.0"

/-- What a switch takes. -/
inductive ValueKind
  | text
  | file
  | directory
  | positive
  deriving DecidableEq, Repr

inductive Switch
  | help
  | version
  | verbose
  | rules
  | format
  | jobs
  | strict
  | failOnUnreadable
  | root
  | output
  deriving DecidableEq, Repr

namespace Switch

def long : Switch → String
  | .help => "--help"
  | .version => "--version"
  | .verbose => "--verbose"
  | .rules => "--rules"
  | .format => "--format"
  | .jobs => "--jobs"
  | .strict => "--strict"
  | .failOnUnreadable => "--fail-on-unreadable"
  | .root => "--root"
  | .output => "--output"

def short? : Switch → Option String
  | .verbose => some "-v"
  | .rules => some "-r"
  | .jobs => some "-j"
  | .output => some "-o"
  | _ => none

/-- What the switch takes; none if it stands alone. -/
def takes? : Switch → Option ValueKind
  | .rules => some .file
  | .format => some .text
  | .jobs => some .positive
  | .root => some .directory
  | .output => some .text
  | _ => none

end Switch

/-- A switch of a command and what it does there. -/
structure Offer where
  switch : Switch
  does : String

/-- What follows the switches. -/
structure Operand where
  name : String
  many : Bool

inductive Verb
  | lint
  | checkRules
  | schema
  | reporters
  | version
  deriving DecidableEq, Repr

def helpOffer : Offer := ⟨.help, "Show this message and exit."⟩

namespace Verb

/-- The commands in alphabetical order. -/
def all : List Verb := [.checkRules, .lint, .reporters, .schema, .version]

def name : Verb → String
  | .lint => "lint"
  | .checkRules => "check-rules"
  | .schema => "schema"
  | .reporters => "reporters"
  | .version => "version"

def ofName? (s : String) : Option Verb := all.find? fun c => c.name == s

/-- What the command does, in one sentence. -/
def summary : Verb → String
  | .lint => "Lint files against a rule set."
  | .checkRules => "Validate a rule-set file and list its rules."
  | .schema => "Print the JSON Schema for rule-set documents."
  | .reporters => "List all output formats, including entry-point reporters."
  | .version => "Show detailed version information."

/-- What there is to say beyond the summary. -/
def details : Verb → List String
  | .lint => ["PATHS are files or directories; directories are searched recursively."]
  | .checkRules => ["FILE is the path to the YAML or JSON rule set."]
  | _ => []

def operand? : Verb → Option Operand
  | .lint => some ⟨"PATHS", true⟩
  | .checkRules => some ⟨"FILE", false⟩
  | _ => none

def offers : Verb → List Offer
  | .lint =>
    [⟨.rules, "Rule-set file (YAML or JSON); defaults to $PATLINT_RULES  [required]"⟩,
      ⟨.format, "Output format (see `patlint reporters`)  [default: text]"⟩,
      ⟨.jobs, "Files linted concurrently  [x>=1]"⟩,
      ⟨.strict, "Treat warnings as errors"⟩,
      ⟨.failOnUnreadable, "Abort with exit code 2 if any file cannot be read"⟩,
      ⟨.root, "Repository root that reported paths are relative to (default: cwd)"⟩,
      ⟨.output, "Write the report to a file instead of stdout"⟩,
      helpOffer]
  | .schema => [⟨.output, "Output file path (defaults to stdout)"⟩, helpOffer]
  | _ => [helpOffer]

end Verb

/-- What is offered before the command. -/
def generalOffers : List Offer :=
  [⟨.version, "Show the version and exit."⟩, ⟨.verbose, "Show debug logging"⟩, helpOffer]

def generalSummary : String := "Pattern-based source linter driven by a declarative rule set."

/-- Where an argument is read: before the command, or behind it. -/
inductive Level
  | general
  | command (c : Verb)
  deriving DecidableEq, Repr

namespace Level

def offers : Level → List Offer
  | .general => generalOffers
  | .command c => c.offers

/-- The words that call the program at this level. -/
def call : Level → String
  | .general => program
  | .command c => program ++ " " ++ c.name

def operandName (o : Operand) : String := if o.many then o.name ++ "..." else o.name

/-- What follows the switches in a usage line. -/
def operandText : Level → String
  | .general => " COMMAND [ARGS]..."
  | .command c =>
    match c.operand? with
    | some o => " " ++ operandName o
    | none => ""

def usage (l : Level) : String := "Usage: " ++ l.call ++ " [OPTIONS]" ++ l.operandText

end Level

end PatternLint.Command
