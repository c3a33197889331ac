import PatternLint.Pattern.Error

/-!
# Tokens of a pattern

A pattern is read token by token; a backslash and the character after it are one token.  A backslash
that ends the pattern is refused as soon as the reader comes to stand before it.
-/

namespace PatternLint.Pattern

inductive Token
  | plain (c : Char)
  | escaped (c : Char)
  /-- A backslash with nothing behind it. -/
  | dangling
  deriving DecidableEq, Repr

namespace Token

def ofChars : List Char → List Token
  | [] => []
  | ['\\'] => [.dangling]
  | '\\' :: c :: rest => .escaped c :: ofChars rest
  | c :: rest => .plain c :: ofChars rest

def chars : Token → List Char
  | .plain c => [c]
  | .escaped c => ['\\', c]
  | .dangling => ['\\']

def length (t : Token) : Nat := t.chars.length

def text (t : Token) : String := String.ofList t.chars

end Token

/-- The tokens that are still to be read, and the offset of the first of them. -/
structure Reader where
  rest : List Token
  pos : Nat
  deriving DecidableEq, Repr

def fail {α : Type} (cause : Cause) (offset : Nat) : Except Refusal α :=
  .error (.fault ⟨cause, some offset⟩)

namespace Reader

/-- A reader before `rest`. -/
def at? (rest : List Token) (pos : Nat) : Except Refusal Reader :=
  match rest with
  | .dangling :: _ => fail .danglingBackslash pos
  | _ => .ok ⟨rest, pos⟩

def start (source : String) : Except Refusal Reader := at? (Token.ofChars source.toList) 0

/-- The next token, and the reader behind it; at the end the reader stays. -/
def get (r : Reader) : Except Refusal (Option Token × Reader) :=
  match r.rest with
  | [] => .ok (none, r)
  | t :: rest => do
    let r ← at? rest (r.pos + t.length)
    return (some t, r)

/-- Whether the next token is the character `c`. -/
def sees (r : Reader) (c : Char) : Bool := r.rest.head? == some (.plain c)

/-- Passes the character `c` if it comes next. -/
def accept (r : Reader) (c : Char) : Except Refusal (Bool × Reader) :=
  match r.rest with
  | t :: rest =>
    if t = .plain c then do
      let r ← at? rest (r.pos + 1)
      return (true, r)
    else .ok (false, r)
  | [] => .ok (false, r)

/-- The next characters as long as `p` holds of them, at most `limit`. -/
def takeWhile (limit : Nat) (p : Char → Bool) : List Token → List Char
  | .plain c :: rest =>
    match limit with
    | 0 => []
    | n + 1 => if p c then c :: takeWhile n p rest else []
  | _ => []

/-- Passes the next characters as long as `p` holds of them, at most `limit`. -/
def span (r : Reader) (limit : Nat) (p : Char → Bool) : Except Refusal (List Char × Reader) := do
  let cs := takeWhile limit p r.rest
  let r ← at? (r.rest.drop cs.length) (r.pos + cs.length)
  return (cs, r)

/-- The tokens before the character `stop`, and those behind it. -/
def splitAt (stop : Char) : List Token → Option (List Token × List Token)
  | [] => none
  | t :: rest =>
    if t = .plain stop then some ([], rest)
    else (splitAt stop rest).map fun (a, b) => (t :: a, b)

def width (ts : List Token) : Nat := ts.foldr (fun t n => t.length + n) 0

/-- Reads a name up to the character `stop`; `what` is what the name stands for. -/
def name (r : Reader) (stop : Char) (what : String) : Except Refusal (List Char × Reader) :=
  match splitAt stop r.rest with
  | none =>
    let fin := r.pos + width r.rest
    if r.rest.contains .dangling then fail .danglingBackslash (fin - 1)
    else if r.rest.isEmpty then fail (.missing what) fin
    else fail (.unterminatedName (String.singleton stop)) r.pos
  | some (ts, rest) => do
    let after ← at? rest (r.pos + width ts + 1)
    if ts.isEmpty then fail (.missing what) (after.pos - 1)
    else return (ts.flatMap Token.chars, after)

/-- Passes everything up to and including the character `stop`, or to the end. -/
def skipPast (r : Reader) (stop : Char) : Except Refusal (Bool × Reader) :=
  match splitAt stop r.rest with
  | none =>
    let fin := r.pos + width r.rest
    if r.rest.contains .dangling then fail .danglingBackslash (fin - 1)
    else .ok (false, ⟨[], fin⟩)
  | some (ts, rest) => do
    let r ← at? rest (r.pos + width ts + 1)
    return (true, r)

end Reader

end PatternLint.Pattern
