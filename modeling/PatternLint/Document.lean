/-!
# Documents

The value that a rule file spells: what a document can hold, told apart as far as a rule set depends
on it.  Keys of a mapping that are no text can never be asked for and are left out.
-/

namespace PatternLint

/-- Values whose content no rule set depends on. -/
inductive OtherKind
  | float
  | date
  | dateTime
  | bytes
  | set
  | tuple
  deriving DecidableEq, Repr

inductive Document
  | null
  | bool (b : Bool)
  | int (n : Int)
  | text (s : String)
  | list (items : List Document)
  /-- Entries in the order in which they were written; of equal keys the last one counts. -/
  | mapping (entries : List (String × Document))
  | other (kind : OtherKind)
  deriving Inhabited

namespace Document

/-- How messages call the kind of a value. -/
def kindName : Document → String
  | .null => "NoneType"
  | .bool _ => "bool"
  | .int _ => "int"
  | .text _ => "str"
  | .list _ => "list"
  | .mapping _ => "dict"
  | .other .float => "float"
  | .other .date => "date"
  | .other .dateTime => "datetime"
  | .other .bytes => "bytes"
  | .other .set => "set"
  | .other .tuple => "tuple"

/-- The value of a key; of equal keys the last one counts. -/
def lookup (entries : List (String × Document)) (key : String) : Option Document :=
  entries.reverse.lookup key

/-- The value of a key that is neither missing nor null. -/
def lookupSet (entries : List (String × Document)) (key : String) : Option Document :=
  match lookup entries key with
  | some .null => none
  | v => v

/-- A list that holds texts only. -/
def texts? : Document → Option (List String)
  | .list items => items.mapM fun v => match v with | .text s => some s | _ => none
  | _ => none

end Document

end PatternLint
