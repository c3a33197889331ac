import PatternLint.Pattern.Compile

/-!
# Matching

`Node.run` tries a tree at a position: the characters it consumes are followed by a continuation, and
where that fails the next way through the tree is tried.  What the groups recorded travels with the
position, so a failed way leaves nothing behind.

A loop over a tree that may consume nothing goes round at most once at the same position once the
least number of rounds is done, which bounds the rounds by that number and the characters left.
-/

namespace PatternLint.Pattern

open PatternLint.Text

/-- A position, with what the groups recorded on the way to it, the latest first. -/
structure Progress where
  pos : Nat
  opened : List (Nat × Nat)
  closed : List (Nat × Nat)
  deriving DecidableEq, Repr

namespace Progress

def start (pos : Nat) : Progress := ⟨pos, [], []⟩

def moveTo (p : Progress) (pos : Nat) : Progress := { p with pos := pos }

/-- What a group recorded: the offsets of its last start and its last end. -/
def recorded? (p : Progress) (g : Nat) : Option (Nat × Nat) :=
  match p.opened.lookup g, p.closed.lookup g with
  | some s, some e => if s ≤ e then some (s, e) else none
  | _, _ => none

end Progress

abbrev Continuation := Progress → Option Progress

variable (text : Array Char)

def codeAt? (i : Nat) : Option Nat := text[i]?.map Char.toNat

def wordAt (ascii : Bool) (i : Nat) : Bool :=
  match codeAt? text i with
  | some n => Category.word.holds ascii n
  | none => false

/-- Whether a word starts or ends at `i`. -/
def isBoundary (ascii : Bool) (i : Nat) : Bool :=
  (0 < i && wordAt text ascii (i - 1)) != wordAt text ascii i

namespace Anchor

/-- Whether the position `i` is of the kind asked for. -/
def holds (m : Mode) (i : Nat) : Anchor → Bool
  | .textStart => i == 0
  | .textEnd => i == text.size
  | .lineStart => i == 0 || (m.multiline && codeAt? text (i - 1) == some 10)
  | .lineEnd =>
    i == text.size ||
      ((m.multiline || i + 1 == text.size) && codeAt? text i == some 10)
  | .wordBoundary => 0 < text.size && isBoundary text m.ascii i
  | .notWordBoundary => 0 < text.size && !isBoundary text m.ascii i

end Anchor

/-- How many characters from `i` on the test accepts, at most `limit`. -/
def countAccepted (m : Mode) (t : CharTest) : Nat → Nat → Nat → Nat
  | 0, _, n => n
  | limit + 1, i, n =>
    match codeAt? text i with
    | some c => if t.accepts m c then countAccepted m t limit (i + 1) (n + 1) else n
    | none => n

/-- Continues behind `lo + extra`, …, `lo + 1`, `lo` characters, in this order. -/
def tryDown (p : Progress) (k : Continuation) (lo : Nat) : Nat → Option Progress
  | 0 => k (p.moveTo (p.pos + lo))
  | extra + 1 =>
    match k (p.moveTo (p.pos + lo + (extra + 1))) with
    | some r => some r
    | none => tryDown p k lo extra

/-- Continues behind `n`, `n + 1`, …, `n + extra` characters, in this order. -/
def tryUp (p : Progress) (k : Continuation) : Nat → Nat → Option Progress
  | 0, n => k (p.moveTo (p.pos + n))
  | extra + 1, n =>
    match k (p.moveTo (p.pos + n)) with
    | some r => some r
    | none => tryUp p k extra (n + 1)

/-- How many of `left` characters a loop may consume. -/
def atMost (hi : Option Nat) (left : Nat) : Nat :=
  match hi with
  | some h => min h left
  | none => left

/-- A loop over a single character. -/
def charLoop (m : Mode) (mode : LoopMode) (lo : Nat) (hi : Option Nat) (t : CharTest)
    (p : Progress) (k : Continuation) : Option Progress :=
  let n := countAccepted text m t (atMost hi (text.size - p.pos)) p.pos 0
  if n < lo then none
  else
    match mode with
    | .greedy => tryDown p k lo (n - lo)
    | .reluctant => tryUp p k (n - lo) lo
    | .possessive => k (p.moveTo (p.pos + n))

def underLimit (count : Nat) (hi : Option Nat) : Bool := hi.all (count < ·)

section Loops

variable (body : Progress → Continuation → Option Progress) (lo : Nat) (hi : Option Nat)

/-- As many rounds as possible, then the continuation.  `last` is the position before the latest
round beyond the least number. -/
def greedyLoop (k : Continuation) : Nat → Nat → Option Nat → Progress → Option Progress
  | 0, _, _, _ => none
  | fuel + 1, count, last, p =>
    if count < lo then body p fun q => greedyLoop k fuel (count + 1) last q
    else if underLimit count hi && last != some p.pos then
      match body p fun q => greedyLoop k fuel (count + 1) (some p.pos) q with
      | some r => some r
      | none => k p
    else k p

/-- As few rounds as possible. -/
def reluctantLoop (k : Continuation) : Nat → Nat → Option Nat → Progress → Option Progress
  | 0, _, _, _ => none
  | fuel + 1, count, last, p =>
    if count < lo then body p fun q => reluctantLoop k fuel (count + 1) last q
    else
      match k p with
      | some r => some r
      | none =>
        if underLimit count hi && last != some p.pos then
          body p fun q => reluctantLoop k fuel (count + 1) (some p.pos) q
        else none

/-- As many rounds as possible, without going back into them. -/
def possessiveLoop : Nat → Nat → Option Nat → Progress → Option Progress
  | 0, _, _, _ => none
  | fuel + 1, count, last, p =>
    if count < lo then (body p some).bind fun q => possessiveLoop fuel (count + 1) last q
    else if underLimit count hi && last != some p.pos then
      match body p some with
      | some q => possessiveLoop fuel (count + 1) (some p.pos) q
      | none => some p
    else some p

end Loops

/-- Whether the characters from `i` on repeat those from `j` on, `n` of them. -/
def sameText (m : Mode) (i j : Nat) : Nat → Bool
  | 0 => true
  | n + 1 =>
    (match codeAt? text i, codeAt? text j with
      | some a, some b => if m.ignoreCase then m.lower a == m.lower b else a == b
      | _, _ => false) && sameText m (i + 1) (j + 1) n

/-- Tries a tree at a position and goes on with `k`. -/
def Node.run (m : Mode) : Node → Progress → Continuation → Option Progress
  | .empty, p, k => k p
  | .char t, p, k =>
    match codeAt? text p.pos with
    | some c => if t.accepts m c then k (p.moveTo (p.pos + 1)) else none
    | none => none
  | .anchor a, p, k => if a.holds text m p.pos then k p else none
  | .seq a b, p, k => a.run m p fun q => b.run m q k
  | .alt a b, p, k =>
    match a.run m p k with
    | some r => some r
    | none => b.run m p k
  | .loop mode lo hi (.char t), p, k => charLoop text m mode lo hi t p k
  | .loop mode lo hi body, p, k =>
    let fuel := lo + (text.size - p.pos) + 2
    match mode with
    | .greedy => greedyLoop (fun q c => body.run m q c) lo hi k fuel 0 none p
    | .reluctant => reluctantLoop (fun q c => body.run m q c) lo hi k fuel 0 none p
    | .possessive => (possessiveLoop (fun q c => body.run m q c) lo hi fuel 0 none p).bind k
  | .group g body, p, k =>
    body.run m { p with opened := (g, p.pos) :: p.opened } fun q =>
      k { q with closed := (g, q.pos) :: q.closed }
  | .scoped change body, p, k => body.run (m.apply change) p k
  | .atomic body, p, k => (body.run m p some).bind k
  | .look .ahead false body, p, k => (body.run m p some).bind fun q => k (q.moveTo p.pos)
  | .look .ahead true body, p, k => if (body.run m p some).isSome then none else k p
  | .look (.behind w) false body, p, k =>
    if w.lo ≤ p.pos then (body.run m (p.moveTo (p.pos - w.lo)) some).bind fun q => k (q.moveTo p.pos)
    else none
  | .look (.behind w) true body, p, k =>
    if w.lo ≤ p.pos && (body.run m (p.moveTo (p.pos - w.lo)) some).isSome then none else k p
  | .backref g, p, k =>
    match p.recorded? g with
    | none => none
    | some (s, e) =>
      if sameText text m s p.pos (e - s) then k (p.moveTo (p.pos + (e - s))) else none
  | .choose g yes no, p, k =>
    if (p.recorded? g).isSome then yes.run m p k else no.run m p k

/-- The end of the match that starts at `i`. -/
def matchAt (p : Pattern) (i : Nat) : Option Nat :=
  (p.node.run text p.mode (Progress.start i) some).map (·.pos)

/-- The first match that starts at `i`, `i + 1`, …, `i + n`. -/
def searchUpTo (p : Pattern) : Nat → Nat → Option (Nat × Nat)
  | 0, i => (matchAt text p i).map (i, ·)
  | n + 1, i =>
    match matchAt text p i with
    | some e => some (i, e)
    | none => searchUpTo p n (i + 1)

/-- The leftmost match that starts at `pos` or later. -/
def search (p : Pattern) (pos : Nat) : Option (Nat × Nat) :=
  if pos ≤ text.size then searchUpTo text p (text.size - pos) pos else none

end PatternLint.Pattern
