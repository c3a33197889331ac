import PatternLint.Json
import PatternLint.Severity

/-!
# The schema of rule-set documents

A JSON Schema of the documents that are read as rule sets, for editors to check and complete them.
-/

namespace PatternLint.Schema

def globList (description : String) : Json :=
  .obj [("type", .str "array"), ("items", .obj [("type", .str "string")]),
    ("description",
      .str (description ++ ". Root-relative globs; a trailing / matches a whole directory"))]

def severityFields : List (String × Json) :=
  [("type", .str "string"), ("enum", .arr (Severity.all.map fun s => .str s.name))]

def described (kind description : String) : Json :=
  .obj [("type", .str kind), ("description", .str description)]

/-- The schema of one rule entry. -/
def rule : Json :=
  .obj [("type", .str "object"), ("required", .arr [.str "name", .str "pattern"]),
    ("properties", .obj [
      ("name", .obj [("type", .str "string"), ("minLength", .int 1),
        ("description", .str "Rule identifier")]),
      ("pattern", described "string"
        "Regular expression matched against whole files in multi-line mode"),
      ("documentation", described "string" "Appended to every message"),
      ("severity",
        .obj (severityFields ++ [("description", .str "Defaults to default-severity")])),
      ("overridden-include-paths", globList "Replaces global-include-paths for this rule"),
      ("overridden-exclude-paths", globList "Replaces global-exclude-paths for this rule"),
      ("literal", described "boolean" "Match the pattern as plain text"),
      ("ignore-case", .obj [("type", .str "boolean")])])]

/-- The schema of a rule-set document. -/
def document : Json :=
  .obj [("$schema", .str "https://json-schema.org/draft/2020-12/schema"),
    ("$id", .str "urn:patlint:rule-set"), ("title", .str "patlint rule set"),
    ("type", .str "object"), ("required", .arr [.str "rules"]),
    ("properties", .obj [
      ("global-include-paths", globList "Files every rule applies to"),
      ("global-exclude-paths", globList "Files no rule applies to"),
      ("default-severity",
        .obj (severityFields ++ [("default", .str Severity.error.name)])),
      ("rules", .obj [("type", .str "array"), ("items", .obj [("$ref", .str "#/$defs/rule")])])]),
    ("$defs", .obj [("rule", rule)])]

def text (indent : Nat) : String := document.render (some indent)

end PatternLint.Schema
