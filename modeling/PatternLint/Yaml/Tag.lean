import PatternLint.Yaml.Timestamp

/-!
# Tags

The kind of value that a node denotes.  A plain scalar without a tag is recognised by its form.
-/

namespace PatternLint.Yaml

inductive Tag
  | null
  | bool
  | int
  | float
  | timestamp
  | binary
  | str
  | seq
  | map
  | omap
  | pairs
  | set
  /-- The key that merges another mapping in. -/
  | merge
  /-- The key whose value stands for the whole mapping. -/
  | value
  | unknown
  deriving DecidableEq, Repr

namespace Tag

/-- What the names of the standard tags start with. -/
def standard : String := "tag:yaml.org,2002:"

def names : List (String × Tag) :=
  [("null", .null), ("bool", .bool), ("int", .int), ("float", .float), ("timestamp", .timestamp),
    ("binary", .binary), ("str", .str), ("seq", .seq), ("map", .map), ("omap", .omap),
    ("pairs", .pairs), ("set", .set), ("merge", .merge), ("value", .value)]

def ofName (name : String) : Tag :=
  match names.find? fun (n, _) => standard ++ n == name with
  | some (_, t) => t
  | none => .unknown

def truths : List String := ["yes", "Yes", "YES", "true", "True", "TRUE", "on", "On", "ON"]

def falsehoods : List String := ["no", "No", "NO", "false", "False", "FALSE", "off", "Off", "OFF"]

def nulls : List String := ["~", "null", "Null", "NULL"]

/-- One line feed at the end does not count. -/
def withoutEnd (s : List Char) : List Char :=
  if s.getLast? == some '\n' then s.dropLast else s

/-- What a scalar without a tag is, by its form. -/
def ofScalar (text : String) : Tag :=
  if text.isEmpty then .null
  else
    let s := withoutEnd text.toList
    let word := String.ofList s
    if truths.contains word || falsehoods.contains word then .bool
    else if isFloat s then .float
    else if isInteger s then .int
    else if word == "<<" then .merge
    else if nulls.contains word then .null
    else if Timestamp.isWritten s then .timestamp
    else if word == "=" then .value
    else .str

end Tag

end PatternLint.Yaml
