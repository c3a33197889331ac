import PatternLint.Pattern.Reading

/-!
# From the text of a pattern to its tree

`compile` reads a pattern and checks what can be checked only for the whole tree.  `escape` writes a
text as a pattern for exactly that text.
-/

namespace PatternLint

open PatternLint.Pattern

/-- A pattern that is ready to be searched for. -/
structure Pattern where
  node : Node
  mode : Mode

namespace Pattern

/-- Look-behinds look back at most this far. -/
def lookbehindLimit : Nat := 4294967295

def LoopMode.operator : LoopMode → String
  | .greedy => "MAX_REPEAT"
  | .reluctant => "MIN_REPEAT"
  | .possessive => "POSSESSIVE_REPEAT"

def Width.checkBehind (w : Width) : Except Refusal Unit :=
  if lookbehindLimit < w.lo then .error (.fault ⟨.lookbehindTooFar, none⟩)
  else if w.hi ≠ some w.lo then .error (.fault ⟨.lookbehindWidth, none⟩)
  else .ok ()

/-- Every look-behind has a fixed width, and the template flag admits no repeat. -/
def Node.check (template : Bool) : Node → Except Refusal Unit
  | .empty | .char _ | .anchor _ | .backref _ => .ok ()
  | .seq a b | .alt a b | .choose _ a b => do
    a.check template
    b.check template
  | .loop mode _ _ body =>
    if template then .error (.fault ⟨.templateOperator mode.operator, none⟩)
    else body.check template
  | .group _ body | .scoped _ body | .atomic body => body.check template
  | .look .ahead _ body => body.check template
  | .look (.behind w) _ body => do
    w.checkBehind
    body.check template

/-- The flags under which the whole pattern is read. -/
def initialFlags (ignoreCase : Bool) : List Flag :=
  if ignoreCase then [.multiline, .ignoreCase] else [.multiline]

def State.initial (flags : List Flag) (r : Reader) : State where
  reader := r
  frame := ⟨.whole, 0, flags.contains .verbose, [], []⟩
  outer := []
  groups := Groups.initial
  flags := flags

/-- The tree of a pattern whose tokens are read, and its flags. -/
def State.finish (s : State) : Except Refusal (Node × List Flag) :=
  match s.outer with
  | _ :: _ => fail .unterminatedGroup s.frame.start
  | [] =>
    if s.flags.contains .ascii && s.flags.contains .unicode then .error .asciiAndUnicode
    else if !s.reader.rest.isEmpty then fail .unbalanced s.reader.pos
    else
      match s.groups.mentioned.find? fun m => s.groups.next ≤ m.1 with
      | some (g, offset) => fail (.invalidReference g) offset
      | none =>
        let branches := (s.frame.currentNodes :: s.frame.branches).reverse
        .ok (Node.seqOf (alternatives branches), s.flags)

def read (source : String) (flags : List Flag) : Except Refusal (Node × List Flag) := do
  let r ← Reader.start source
  let s ← walk r.rest.length (State.initial flags r)
  s.finish

/-- Reads a pattern; lines are matched one by one (`^` and `$` hold at every line). -/
def compile (source : String) (ignoreCase : Bool) : Except Refusal Pattern := do
  let (node, flags) ← read source (initialFlags ignoreCase)
  node.check (flags.contains .template)
  return ⟨node, Mode.ofFlags flags⟩

/-- Characters that a backslash makes literal. -/
def isSpecial (c : Char) : Bool :=
  "()[]\x7b\x7d?*+-|^$\\.&~# \t\n\r\x0b\x0c".toList.contains c

/-- The pattern for a plain text. -/
def escapeChars (s : List Char) : List Char :=
  s.flatMap fun c => if isSpecial c then ['\\', c] else [c]

def escape (s : String) : String := String.ofList (escapeChars s.toList)

end Pattern

end PatternLint
