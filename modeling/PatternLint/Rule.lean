import PatternLint.Match
import PatternLint.Scope
import PatternLint.Severity

/-!
# Rules and rule sets

A rule is a named pattern with a severity.  A rule with a scope of its own is not touched by the scope
of the rule set, in neither direction; every other rule uses the scope of the rule set.
-/

namespace PatternLint

structure Rule where
  name : String
  /-- The pattern as it was written. -/
  pattern : String
  /-- The pattern that is searched for. -/
  compiled : Pattern
  documentation : Option String
  severity : Severity
  scope : Scope
  /-- Whether the pattern is a plain text. -/
  literal : Bool
  ignoreCase : Bool

namespace Rule

/-- What the pattern of a rule is read from. -/
def sourceOf (pattern : String) (literal : Bool) : String :=
  if literal then Pattern.escape pattern else pattern

def source (r : Rule) : String := sourceOf r.pattern r.literal

/-- Reads the pattern and builds the rule. -/
def create (name pattern : String) (documentation : Option String) (severity : Severity)
    (scope : Scope) (literal ignoreCase : Bool) : Except Pattern.Refusal Rule := do
  let compiled ← Pattern.compile (sourceOf pattern literal) ignoreCase
  return ⟨name, pattern, compiled, documentation, severity, scope, literal, ignoreCase⟩

/-- The matches of a rule in a text, from left to right. -/
def findMatches (r : Rule) (text : String) : List Match := Pattern.findMatches text r.compiled

end Rule

structure RuleSet where
  rules : List Rule
  /-- The scope of the rules that have none of their own. -/
  scope : Scope

namespace RuleSet

def ruleNames (s : RuleSet) : List String := s.rules.map (·.name)

/-- Whether a rule is to be tried on a file. -/
def appliesTo (s : RuleSet) (r : Rule) (path : String) : Bool :=
  if r.scope.isSet then r.scope.admits path else s.scope.admits path

end RuleSet

end PatternLint
