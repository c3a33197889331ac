import PatternLint.Text.Letter
import PatternLint.Text.Utf8
import PatternLint.Yaml.Cursor
import PatternLint.Yaml.Fault
import PatternLint.Yaml.Token

/-!
# Anchors, tags and directives

The marks of a YAML text that carry a name.
-/

namespace PatternLint.Yaml

open PatternLint.Text

def hexValue? (c : Char) : Option Nat :=
  let n := c.toNat
  if 48 ≤ n && n ≤ 57 then some (n - 48)
  else if 65 ≤ n && n ≤ 70 then some (n - 55)
  else if 97 ≤ n && n ≤ 102 then some (n - 87)
  else none

/-- The value of `count` hexadecimal digits, and the place behind them. -/
def hexCode (count : Nat) (c : Cursor) : Except Fault (Nat × Cursor) :=
  match (c.rest.take count).mapM hexValue? with
  | some digits =>
    if digits.length = count then .ok (digits.foldl (fun n d => 16 * n + d) 0, c.skip count)
    else .error .malformed
  | none => .error .malformed

def isNameChar (c : Char) : Bool :=
  isAsciiLetter c.toNat || isAsciiDigit c.toNat || c == '-' || c == '_'

/-- The characters of a tag, besides letters and digits. -/
def uriMarks : List Char := "-;/?:@&=+$,_.!~*'()[]%".toList

def isUriChar (c : Char) : Bool :=
  isAsciiLetter c.toNat || isAsciiDigit c.toNat || uriMarks.contains c

/-- The name of an anchor or an alias. -/
def anchorName (c : Cursor) : Except Fault (String × Cursor) :=
  let (name, c) := c.next.span isNameChar
  if name.isEmpty then .error .malformed
  else
    let follows := c.peek 0
    if endsWord follows || follows.any ("?:,]\x7d%@`".toList.contains ·) then
      .ok (String.ofList name, c)
    else .error .malformed

/-- Octets written as percent signs with two digits each. -/
def uriOctets : Nat → Cursor → Except Fault (List UInt8 × Cursor)
  | 0, c => .ok ([], c)
  | fuel + 1, c =>
    if c.peek 0 == some '%' then do
      let (n, c) ← hexCode 2 c.next
      let (more, c) ← uriOctets fuel c
      .ok (n.toUInt8 :: more, c)
    else .ok ([], c)

/-- The characters of a tag from here on. -/
def uriFrom : Nat → Cursor → Except Fault (List Char × Cursor)
  | 0, c => .ok ([], c)
  | fuel + 1, c =>
    match c.peek 0 with
    | none => .ok ([], c)
    | some x =>
      if x == '%' then do
        let (octets, c) ← uriOctets (c.rest.length + 1) c
        match decode octets with
        | .error _ => .error .malformed
        | .ok s =>
          let (more, c) ← uriFrom fuel c
          .ok (s.toList ++ more, c)
      else if isUriChar x then do
        let (more, c) ← uriFrom fuel c.next
        .ok (x :: more, c)
      else .ok ([], c)

/-- The rest of a tag; it must not be empty. -/
def uri (c : Cursor) : Except Fault (String × Cursor) := do
  if c.peek 0 |>.any isUriChar then
    let (s, c) ← uriFrom (c.rest.length + 1) c
    .ok (String.ofList s, c)
  else .error .malformed

/-- A handle: a name between exclamation marks, or a lone mark before a space. -/
def tagHandle (c : Cursor) : Except Fault (String × Cursor) :=
  if c.peek 0 != some '!' then .error .malformed
  else if c.peek 1 == some ' ' then .ok ("!", c.next)
  else
    let (name, c) := c.next.span isNameChar
    if c.peek 0 == some '!' then .ok ("!" ++ String.ofList name ++ "!", c.next)
    else .error .malformed

/-- A tag: in full between angle brackets, with a handle, or a lone mark. -/
def tagToken (c : Cursor) : Except Fault (Token × Cursor) := do
  let (token, c) ←
    match c.peek 1 with
    | some '<' => do
      let (suffix, c) ← uri (c.skip 2)
      if c.peek 0 == some '>' then .ok (Token.tag none suffix, c.next) else .error .malformed
    | x =>
      if endsWord x then .ok (Token.tag none "!", c.next)
      else
        let word := (c.rest.drop 1).takeWhile fun y => y != ' ' && !isBreak y
        if word.contains '!' then do
          let (handle, c) ← tagHandle c
          let (suffix, c) ← uri c
          .ok (Token.tag (some handle) suffix, c)
        else do
          let (suffix, c) ← uri c.next
          .ok (Token.tag (some "!") suffix, c)
  if endsIndicator (c.peek 0) then .ok (token, c) else .error .malformed

/-- A number of a version. -/
def versionPart (c : Cursor) : Except Fault (Nat × Cursor) :=
  let (digits, c) := c.span fun x => isAsciiDigit x.toNat
  if digits.isEmpty then .error .malformed
  else .ok (digits.foldl (fun n d => 10 * n + (d.toNat - 48)) 0, c)

/-- Goes past blanks, a comment and the end of the line. -/
def restOfLine (c : Cursor) : Except Fault Cursor :=
  let c := c.skipComment
  if endsLine (c.peek 0) then
    match c.lineBreak? with
    | some (_, c) => .ok c
    | none => .ok c
  else .error .malformed

/-- A directive, with the end of its line. -/
def directiveToken (c : Cursor) : Except Fault (Token × Cursor) := do
  let (name, c) := c.next.span isNameChar
  if name.isEmpty || !endsIndicator (c.peek 0) then .error .malformed
  else
    match String.ofList name with
    | "YAML" => do
      let (major, c) ← versionPart (c.skipWhile (· == ' '))
      if c.peek 0 != some '.' then .error .malformed
      else
        let (minor, c) ← versionPart c.next
        if endsIndicator (c.peek 0) then .ok (.directive (.version major minor), ← restOfLine c)
        else .error .malformed
    | "TAG" => do
      let (handle, c) ← tagHandle (c.skipWhile (· == ' '))
      if c.peek 0 != some ' ' then .error .malformed
      else
        let (expansion, c) ← uri (c.skipWhile (· == ' '))
        if endsIndicator (c.peek 0) then
          .ok (.directive (.tagHandle handle expansion), ← restOfLine c)
        else .error .malformed
    | _ => .ok (.directive .unknown, ← restOfLine (c.skipWhile fun x => !isBreak x))

end PatternLint.Yaml
