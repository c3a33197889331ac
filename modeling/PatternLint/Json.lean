import PatternLint.Text.Quoted

/-!
# JSON

Values and how they are written: either on one line, or one item per line with a fixed indent per
level.  Objects keep the order of their fields.
-/

namespace PatternLint

open PatternLint.Text

inductive Json
  | null
  | bool (b : Bool)
  | int (n : Int)
  | str (s : String)
  | arr (items : List Json)
  | obj (fields : List (String × Json))
  deriving Inhabited

namespace Json

/-- The short escapes and, for the other control characters, four hexadecimal digits. -/
def escapeChar (c : Char) : List Char :=
  if c == doubleQuote || c == '\\' then ['\\', c]
  else if c == '\n' then ['\\', 'n']
  else if c == '\r' then ['\\', 'r']
  else if c == '\t' then ['\\', 't']
  else if c.toNat == 8 then ['\\', 'b']
  else if c.toNat == 12 then ['\\', 'f']
  else if c.toNat < 32 then '\\' :: 'u' :: hexDigits 4 c.toNat
  else [c]

/-- A text between double quotes. -/
def renderString (s : String) : String :=
  String.ofList (doubleQuote :: (s.toList.flatMap escapeChar ++ [doubleQuote]))

/-- A line break and the indent of a level; nothing when everything stands on one line. -/
def newline (indent : Option Nat) (level : Nat) : String :=
  match indent with
  | none => ""
  | some n => "\n" ++ String.ofList (List.replicate (n * level) ' ')

/-- What stands between two items. -/
def separator (indent : Option Nat) (level : Nat) : String :=
  match indent with
  | none => ", "
  | some _ => "," ++ newline indent level

mutual

/-- The text of a value that stands at a level. -/
def renderAt (indent : Option Nat) (level : Nat) : Json → String
  | .null => "null"
  | .bool b => if b then "true" else "false"
  | .int n => toString n
  | .str s => renderString s
  | .arr [] => "[]"
  | .arr (v :: vs) =>
    "[" ++ newline indent (level + 1) ++ renderAt indent (level + 1) v ++
      renderItems indent (level + 1) vs ++ newline indent level ++ "]"
  | .obj [] => "\x7b\x7d"
  | .obj ((k, v) :: fs) =>
    "\x7b" ++ newline indent (level + 1) ++ renderString k ++ ": " ++ renderAt indent (level + 1) v ++
      renderFields indent (level + 1) fs ++ newline indent level ++ "\x7d"

/-- Further items of a list. -/
def renderItems (indent : Option Nat) (level : Nat) : List Json → String
  | [] => ""
  | v :: vs => separator indent level ++ renderAt indent level v ++ renderItems indent level vs

/-- Further fields of an object. -/
def renderFields (indent : Option Nat) (level : Nat) : List (String × Json) → String
  | [] => ""
  | (k, v) :: fs =>
    separator indent level ++ renderString k ++ ": " ++ renderAt indent level v ++
      renderFields indent level fs

end

/-- The text of a value; with an indent, every item has a line of its own. -/
def render (indent : Option Nat) (v : Json) : String := renderAt indent 0 v

end Json

end PatternLint
