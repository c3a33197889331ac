import PatternLint.Document
import PatternLint.Log
import PatternLint.Rule
import PatternLint.RuleSet.Problem

/-!
# From a document to a rule set

Problems with the document as a whole are collected and reported together.  Every rule entry is
judged by itself: each of its fields is right or has one problem, and an entry with problems, or with
a pattern that is refused, is dropped without touching the others.

Only two refusals of a pattern are no fault of its entry alone and stop the reading: a repeat count
beyond the engine's range, and contradictory flags for the whole pattern.
-/

namespace PatternLint

open PatternLint.Text

/-- Why no rule set comes out of a document. -/
inductive ReadFailure
  | unusable (e : ConfigurationError)
  /-- The engine gave up on a pattern. -/
  | engine (r : Pattern.Refusal) (source : String)
  deriving DecidableEq, Repr

namespace Field

abbrev Entries := List (String × Document)

def name (e : Entries) : Except String String :=
  match Document.lookup e "name" with
  | some (.text s) =>
    let n := strip s.toList
    if n.isEmpty then .error "'name' must be a non-empty string" else .ok (String.ofList n)
  | _ => .error "'name' must be a non-empty string"

def pattern (e : Entries) : Except String String :=
  match (Document.lookup e "pattern").getD .null with
  | .text s => .ok s
  | v => .error ("'pattern' must be a string, got " ++ v.kindName)

/-- An empty documentation is none. -/
def documentation (e : Entries) : Except String (Option String) :=
  match Document.lookupSet e "documentation" with
  | none => .ok none
  | some (.text s) => .ok (if s.isEmpty then none else some s)
  | some _ => .error "'documentation' must be a string"

/-- A severity given by its name. -/
def severityValue (label : String) : Document → Except String Severity
  | .text s =>
    match Severity.ofName? s with
    | some v => .ok v
    | none => .error (label ++ ": " ++ Severity.unknownMessage s)
  | _ => .error (label ++ " must be a string")

def severity (fallback : Severity) (e : Entries) : Except String Severity :=
  match Document.lookupSet e "severity" with
  | none => .ok fallback
  | some v => severityValue "'severity'" v

def globs (key label : String) (e : Entries) : Except String (Option (List String)) :=
  match Document.lookupSet e key with
  | none => .ok none
  | some v =>
    match v.texts? with
    | some xs => .ok (some xs)
    | none => .error (label ++ " must be a list of glob strings")

def flag (key : String) (e : Entries) : Except String Bool :=
  match Document.lookupSet e key with
  | none => .ok false
  | some (.bool b) => .ok b
  | some _ => .error (quoted key ++ " must be true or false")

/-- The severity of the rules that name none; where the key is present it has to be right. -/
def defaultSeverity (e : Entries) : Except String Severity :=
  match Document.lookup e "default-severity" with
  | none => .ok .error
  | some v => severityValue "default-severity" v

/-- The problem of a field, if it has one. -/
def problem? {α : Type} : Except String α → Option String
  | .ok _ => none
  | .error p => some p

end Field

/-- What becomes of one entry. -/
inductive EntryOutcome
  | kept (r : Rule)
  | dropped (d : DroppedRule)
  | failed (r : Pattern.Refusal) (source : String)

/-- The fields of a rule entry, each read by itself. -/
structure EntryFields where
  name : Except String String
  pattern : Except String String
  documentation : Except String (Option String)
  severity : Except String Severity
  includes : Except String (Option (List String))
  excludes : Except String (Option (List String))
  literal : Except String Bool
  ignoreCase : Except String Bool

namespace EntryFields

def ofEntries (fallback : Severity) (e : Field.Entries) : EntryFields where
  name := Field.name e
  pattern := Field.pattern e
  documentation := Field.documentation e
  severity := Field.severity fallback e
  includes := Field.globs "overridden-include-paths" "'overridden-include-paths'" e
  excludes := Field.globs "overridden-exclude-paths" "'overridden-exclude-paths'" e
  literal := Field.flag "literal" e
  ignoreCase := Field.flag "ignore-case" e

/-- The problems of the fields, in this order. -/
def problems (f : EntryFields) : List String :=
  [Field.problem? f.name, Field.problem? f.pattern, Field.problem? f.documentation,
    Field.problem? f.severity, Field.problem? f.includes, Field.problem? f.excludes,
    Field.problem? f.literal, Field.problem? f.ignoreCase].filterMap id

end EntryFields

/-- Builds the rule of right fields, or says that its pattern is refused. -/
def buildRule (name pattern : String) (documentation : Option String) (severity : Severity)
    (scope : Scope) (literal ignoreCase : Bool) : EntryOutcome :=
  match Rule.create name pattern documentation severity scope literal ignoreCase with
  | .ok r => .kept r
  | .error (.fault f) =>
    .dropped (.uncompilable name pattern (f.message (Rule.sourceOf pattern literal)))
  | .error r => .failed r (Rule.sourceOf pattern literal)

/-- Reads the entry at `index`. -/
def readEntry (fallback : Severity) (index : Nat) (entry : Document) : EntryOutcome :=
  match entry with
  | .mapping e =>
    let f := EntryFields.ofEntries fallback e
    match f.name, f.pattern, f.documentation, f.severity, f.includes, f.excludes, f.literal,
      f.ignoreCase with
    | .ok name, .ok pattern, .ok documentation, .ok severity, .ok includes, .ok excludes,
      .ok literal, .ok ignoreCase =>
      buildRule name pattern documentation severity ⟨includes, excludes⟩ literal ignoreCase
    | _, _, _, _, _, _, _, _ => .dropped (.invalid index f.name.toOption f.problems)
  | v => .dropped (.invalid index none ["must be a mapping, got " ++ v.kindName])

/-- Rules that were kept and rules that were dropped, each in the order of the document. -/
structure EntryLists where
  rules : List Rule
  dropped : List DroppedRule

/-- Reads the entries from `index` on; stops at a pattern that the engine gives up on. -/
def readEntries (fallback : Severity) (index : Nat) :
    List Document → Logged (Except ReadFailure EntryLists)
  | [] => ⟨.ok ⟨[], []⟩, []⟩
  | entry :: rest =>
    match readEntry fallback index entry with
    | .kept r =>
      let later := readEntries fallback (index + 1) rest
      ⟨later.value.map fun l => { l with rules := r :: l.rules }, later.log⟩
    | .dropped d =>
      let later := readEntries fallback (index + 1) rest
      ⟨later.value.map fun l => { l with dropped := d :: l.dropped },
        ⟨.warning, d.message⟩ :: later.log⟩
    | .failed r source => ⟨.error (.engine r source), []⟩

/-- The settings of a document that hold for all rules. -/
structure Settings where
  scope : Scope
  fallback : Severity

def readSettings (e : Field.Entries) : Except ConfigurationError Settings :=
  let includes := Field.globs "global-include-paths" "global-include-paths" e
  let excludes := Field.globs "global-exclude-paths" "global-exclude-paths" e
  let fallback := Field.defaultSeverity e
  match includes, excludes, fallback with
  | .ok i, .ok x, .ok f => .ok ⟨⟨i, x⟩, f⟩
  | _, _, _ =>
    let problems :=
      [Field.problem? includes, Field.problem? excludes, Field.problem? fallback].filterMap id
    .error ⟨"Rule set has " ++ toString problems.length ++ " problem(s)", problems⟩

/-- The entries and the settings of a document. -/
def readTop : Document → Except ConfigurationError (Settings × List Document)
  | .mapping e =>
    match Document.lookupSet e "rules" with
    | none => .error ⟨"Rule set is missing the 'rules' list", []⟩
    | some (.list entries) => (readSettings e).map (·, entries)
    | some v => .error ⟨"'rules' must be a list, got " ++ v.kindName, []⟩
  | v => .error ⟨"Rule set must be a mapping at top level, got " ++ v.kindName, []⟩

/-- A rule set, and the rules that were left out of it. -/
structure Parsed where
  ruleSet : RuleSet
  dropped : List DroppedRule

/-- Reads a document. -/
def RuleSet.ofDocument (d : Document) : Logged (Except ReadFailure Parsed) :=
  match readTop d with
  | .error e => ⟨.error (.unusable e), []⟩
  | .ok (settings, entries) =>
    let read := readEntries settings.fallback 0 entries
    match read.value with
    | .error e => ⟨.error e, read.log⟩
    | .ok lists =>
      let ruleSet : RuleSet := ⟨lists.rules, settings.scope⟩
      let summary :=
        "Parsed rule set: rules " ++ quotedList ruleSet.ruleNames ++ ", " ++
          toString lists.dropped.length ++ " dropped"
      ⟨.ok ⟨ruleSet, lists.dropped⟩, read.log ++ [⟨.debug, summary⟩]⟩

end PatternLint
