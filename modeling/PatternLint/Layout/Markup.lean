import PatternLint.Text.Blank
import PatternLint.Text.Quoted

/-!
# Marked-up text

Styles are switched on and off by tags in brackets, and names between colons stand for pictures.
`escape` protects a text against being read as tags; `plain` is what is left of a marked-up text
without its styles.  Both see the same `pieces` of a text: its tags, each with the backslashes in front
of it, and the characters outside of them.  Which pictures there are and which tags are refused is up to
the console.
-/

namespace PatternLint.Layout

open PatternLint.Text

/-- Why a marked-up text cannot be shown. -/
inductive MarkupError
  | unmatched (tag : String) (offset : Nat)
  | nothingToClose (offset : Nat)
  /-- A part of a color is no number. -/
  | notNumber (text : String)
  deriving DecidableEq, Repr

namespace MarkupError

def message : MarkupError → String
  | .unmatched tag offset =>
    "closing tag '[" ++ tag ++ "]' at position " ++ toString offset ++ " doesn't match any open tag"
  | .nothingToClose offset =>
    "closing tag '[/]' at position " ++ toString offset ++ " has nothing to close"
  | .notNumber text => "invalid literal for int() with base 10: " ++ quoted text

end MarkupError

/-- Characters with which a tag can start. -/
def startsTag (c : Char) : Bool := ('a' ≤ c && c ≤ 'z') || c == '#' || c == '/' || c == '@'

/-- The inside of the tag whose opening bracket comes first. -/
def tag? : List Char → Option (List Char)
  | '[' :: c :: rest =>
    if startsTag c then
      let inside := rest.takeWhile fun d => d != '[' && d != ']'
      if (rest.drop inside.length).head? = some ']' then some (c :: inside) else none
    else none
  | _ => none

/-- The backslashes that come first, counted, and the inside of the tag right behind them. -/
def bracket? (s : List Char) : Option (Nat × List Char) :=
  let n := (s.takeWhile (· == '\\')).length
  (tag? (s.drop n)).map (n, ·)

/-- A piece of a text: a character outside of tags, or a tag with the backslashes in front of it. -/
inductive Piece
  | char (c : Char)
  | tag (backslashes : Nat) (inside : List Char)
  deriving DecidableEq, Repr

/-- The pieces of a text behind its first `skip` characters. -/
def piecesFrom : Nat → List Char → List Piece
  | _, [] => []
  | skip + 1, _ :: rest => piecesFrom skip rest
  | 0, c :: rest =>
    match bracket? (c :: rest) with
    | some (n, inside) => .tag n inside :: piecesFrom (n + inside.length + 1) rest
    | none => .char c :: piecesFrom 0 rest

def pieces (s : List Char) : List Piece := piecesFrom 0 s

/-! ## Protected texts -/

/-- A tag in its brackets. -/
def bracketed (inside : List Char) : List Char := '[' :: (inside ++ [']'])

/-- A piece behind so many backslashes that it is not read as a tag. -/
def Piece.escaped : Piece → List Char
  | .char c => [c]
  | .tag n inside => List.replicate (2 * n + 1) '\\' ++ bracketed inside

/-- A text with its tags protected. -/
def escapeTags (s : List Char) : List Char := (pieces s).flatMap Piece.escaped

/-- A text that shows as it is; a single backslash at its end is doubled. -/
def escape (s : List Char) : List Char :=
  let e := escapeTags s
  match e.reverse with
  | '\\' :: '\\' :: _ => e
  | '\\' :: _ => e ++ ['\\']
  | _ => e

/-! ## Parts of a marked-up text -/

/-- A part of a marked-up text: characters to be shown, or a tag at an offset. -/
inductive Part
  | shown (s : List Char)
  | tag (inside : List Char) (offset : Nat)

/-- The parts that pieces from `pos` on make up; `pending` holds the characters since the last tag, the
last one first.  Of the backslashes in front of a tag every second one is shown, and one that is left
over protects the tag. -/
def partsFrom (pos : Nat) (pending : List Char) : List Piece → List Part
  | [] => [.shown pending.reverse]
  | .char c :: ps => partsFrom (pos + 1) (c :: pending) ps
  | .tag n inside :: ps =>
    let body : Part := if n % 2 = 1 then .shown (bracketed inside) else .tag inside (pos + n)
    .shown pending.reverse :: .shown (List.replicate (n / 2) '\\') :: body ::
      partsFrom (pos + n + inside.length + 2) [] ps

def parts (s : List Char) : List Part := partsFrom 0 [] (pieces s)

/-- A backslash in front of an opening bracket is dropped. -/
def unescape : List Char → List Char
  | '\\' :: '[' :: rest => '[' :: unescape rest
  | c :: rest => c :: unescape rest
  | [] => []

/-! ## Pictures -/

/-- The name between the colon that comes first and the next one, if no blank stands between them. -/
def code? : List Char → Option (List Char)
  | ':' :: rest =>
    let name := rest.takeWhile fun d => d != ':' && !Blank d
    if (rest.drop name.length).head? = some ':' then some name else none
  | _ => none

/-- A name between colons. -/
def code (name : List Char) : List Char := ':' :: (name ++ [':'])

/-- The pictures that names between colons stand for.  A picture is no longer than the code that stands
for it, and is not that code itself. -/
structure PictureBook where
  picture? : List Char → Option (List Char)
  length_le : ∀ {name picture}, picture? name = some picture → picture.length ≤ (code name).length
  ne_code : ∀ {name picture}, picture? name = some picture → picture ≠ code name

/-- A text behind its first `skip` characters, with pictures in the place of their codes. -/
def drawFrom (book : PictureBook) : Nat → List Char → List Char
  | _, [] => []
  | skip + 1, _ :: rest => drawFrom book skip rest
  | 0, c :: rest =>
    match code? (c :: rest) with
    | some name => (book.picture? name).getD (code name) ++ drawFrom book (name.length + 1) rest
    | none => c :: drawFrom book 0 rest

def draw (book : PictureBook) (s : List Char) : List Char := drawFrom book 0 s

/-! ## What is shown -/

def showPart (book : PictureBook) (s : List Char) : List Char := draw book (unescape s)

/-- What is shown of a part; of a tag it is nothing. -/
def Part.display (book : PictureBook) : Part → List Char
  | .shown s => showPart book s
  | .tag _ _ => []

/-- The inside and the offset of a tag. -/
def Part.tag? : Part → Option (List Char × Nat)
  | .shown _ => none
  | .tag inside offset => some (inside, offset)

/-- The tags among parts, in order. -/
def tagsOf (ps : List Part) : List (List Char × Nat) := ps.filterMap Part.tag?

/-- A word of small letters. -/
def IsStyle (style : List Char) : Prop := style ≠ [] ∧ ∀ c ∈ style, 'a' ≤ c ∧ c ≤ 'z'

instance (style : List Char) : Decidable (IsStyle style) :=
  inferInstanceAs (Decidable (style ≠ [] ∧ ∀ c ∈ style, 'a' ≤ c ∧ c ≤ 'z'))

/-- Which marked-up texts are refused because of their tags.  A word that opens a style and the tag that
closes it again never are, and a closing tag with nothing left to close always is. -/
structure TagRules where
  fault? : List Part → Option MarkupError
  closed : ∀ {ps style}, IsStyle style → (tagsOf ps).map Prod.fst = [style, '/' :: style] →
    fault? ps = none
  unopened : ∀ {ps style name rest}, IsStyle style →
    (tagsOf ps).map Prod.fst = style :: ('/' :: style) :: ('/' :: name) :: rest → fault? ps ≠ none

/-- What messages are printed on. -/
class Console where
  /-- The cells of a line. -/
  width : Nat
  pictures : PictureBook
  tags : TagRules

/-- What a marked-up text shows. -/
def plain [Console] (s : List Char) : Except MarkupError (List Char) :=
  let ps := parts s
  match Console.tags.fault? ps with
  | some e => .error e
  | none => .ok (ps.flatMap (Part.display Console.pictures))

end PatternLint.Layout
