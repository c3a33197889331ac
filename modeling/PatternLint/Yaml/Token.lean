/-!
# Tokens of a YAML text

What a text consists of once indentation has been turned into the starts and ends of block
collections and every key is marked.
-/

namespace PatternLint.Yaml

inductive Directive
  | version (major minor : Nat)
  | tagHandle (handle expansion : String)
  | unknown
  deriving DecidableEq, Repr

inductive Token
  | directive (d : Directive)
  | documentStart
  | documentEnd
  | blockSequenceStart
  | blockMappingStart
  | blockEnd
  | flowSequenceStart
  | flowSequenceEnd
  | flowMappingStart
  | flowMappingEnd
  | blockEntry
  | flowEntry
  | key
  | value
  | alias (name : String)
  | anchor (name : String)
  /-- A tag that is given in full has no handle. -/
  | tag (handle : Option String) (suffix : String)
  | scalar (text : String) (plain : Bool)
  deriving DecidableEq, Repr

end PatternLint.Yaml
