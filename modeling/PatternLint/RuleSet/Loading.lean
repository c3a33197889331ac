import PatternLint.RuleSet.Reading
import PatternLint.Volume
import PatternLint.Yaml

/-!
# Rule files

Reads a rule set from a file of a volume.  A file that is not there, cannot be read or breaks the rules
of its format is reported like an unusable document; a text that is no UTF-8 and a value that denotes
nothing are told apart from these.
-/

namespace PatternLint

open PatternLint.Text

inductive LoadFailure
  | document (e : ReadFailure)
  | encoding (e : DecodeError)
  | value (f : Yaml.Fault)
  /-- A path that holds a null character names no file. -/
  | nullInPath
  deriving DecidableEq, Repr

namespace LoadFailure

def unusable (summary : String) : LoadFailure := .document (.unusable ⟨summary, []⟩)

/-- What is said when a path holds a null character. -/
def nullMessage : String := "embedded null byte"

end LoadFailure

namespace RuleSet

/-- Why the file of a rule set cannot be read. -/
def accessFailure (p : Path) : AccessFault → LoadFailure
  | .notFound => .unusable ("Rule set file not found: " ++ p.text)
  | f => .unusable ("Cannot read rule set " ++ p.text ++ ": " ++ f.message p.text)

/-- The document in a file. -/
def documentIn (v : Volume) (p : Path) : Except LoadFailure Document :=
  if p.text.toList.contains (Char.ofNat 0) then .error .nullInPath
  else
    match v.read p with
    | .error f => .error (accessFailure p f)
    | .ok content =>
      match decode content with
      | .error e => .error (.encoding e)
      | .ok text =>
        match Yaml.load (String.ofList (unifyLineEnds text.toList)) with
        | .ok d => .ok d
        | .error .malformed =>
          .error (.unusable
            ("Rule set " ++ p.text ++ " is not valid YAML/JSON: " ++ Yaml.Fault.malformed.message))
        | .error f => .error (.value f)

/-- The rule set in a file. -/
def load (v : Volume) (path : String) : Logged (Except LoadFailure Parsed) :=
  let p := Path.ofString path
  match documentIn v p with
  | .error e => ⟨.error e, []⟩
  | .ok d =>
    let read := RuleSet.ofDocument d
    ⟨read.value.mapError .document,
      ⟨.debug, "Loaded rule set document from " ++ p.text⟩ :: read.log⟩

end RuleSet

end PatternLint
