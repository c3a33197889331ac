import PatternLint.Pattern.CharTest

/-!
# Pattern trees

The tree of a pattern, and the number of characters that a tree can consume.
-/

namespace PatternLint.Pattern

/-- Positions of a text. -/
inductive Anchor
  | lineStart
  | lineEnd
  | textStart
  | textEnd
  | wordBoundary
  | notWordBoundary
  deriving DecidableEq, Repr

inductive LoopMode
  | greedy
  | reluctant
  | possessive
  deriving DecidableEq, Repr

/-- The least and the greatest number of characters; `none` stands for no bound. -/
structure Width where
  lo : Nat
  hi : Option Nat
  deriving DecidableEq, Repr

namespace Width

def zero : Width := ⟨0, some 0⟩

def one : Width := ⟨1, some 1⟩

def add (a b : Width) : Width :=
  ⟨a.lo + b.lo, a.hi.bind fun x => b.hi.map (x + ·)⟩

/-- Either of two. -/
def union (a b : Width) : Width :=
  ⟨min a.lo b.lo, a.hi.bind fun x => b.hi.map (max x)⟩

/-- Between `lo` and `hi` times. -/
def times (w : Width) (lo : Nat) (hi : Option Nat) : Width :=
  ⟨w.lo * lo,
    match w.hi, hi with
    | some 0, _ => some 0
    | _, some 0 => some 0
    | some x, some n => some (x * n)
    | _, _ => none⟩

end Width

/-- Where a look-around looks; behind, the characters it looks back over. -/
inductive Direction
  | ahead
  | behind (width : Width)
  deriving DecidableEq, Repr

inductive Node
  /-- Consumes nothing. -/
  | empty
  /-- Consumes one character. -/
  | char (test : CharTest)
  | anchor (a : Anchor)
  | seq (first second : Node)
  /-- The first alternative that leads to a match. -/
  | alt (first second : Node)
  /-- Between `lo` and `hi` times; `none` stands for no bound. -/
  | loop (mode : LoopMode) (lo : Nat) (hi : Option Nat) (body : Node)
  /-- Records what `body` consumes as group `index`. -/
  | group (index : Nat) (body : Node)
  | scoped (change : FlagChange) (body : Node)
  /-- The first way through `body` only. -/
  | atomic (body : Node)
  /-- Whether `body` matches here, without consuming anything. -/
  | look (dir : Direction) (negated : Bool) (body : Node)
  /-- What the group recorded, once more. -/
  | backref (index : Nat)
  /-- One of two, by whether the group has recorded anything. -/
  | choose (index : Nat) (yes no : Node)
  deriving Repr

namespace Node

/-- The nodes one after the other. -/
def seqOf : List Node → Node
  | [] => .empty
  | [n] => n
  | n :: rest => .seq n (seqOf rest)

/-- The alternatives, earlier ones first. -/
def altOf : List Node → Node
  | [] => .empty
  | [n] => n
  | n :: rest => .alt n (altOf rest)

/-- How many characters a tree consumes, given what the groups it refers to consume. -/
def width (groups : Nat → Width) : Node → Width
  | .empty => .zero
  | .char _ => .one
  | .anchor _ => .zero
  | .seq a b => (a.width groups).add (b.width groups)
  | .alt a b => (a.width groups).union (b.width groups)
  | .loop _ lo hi body => (body.width groups).times lo hi
  | .group _ body => body.width groups
  | .scoped _ body => body.width groups
  | .atomic body => body.width groups
  | .look _ _ _ => .zero
  | .backref g => groups g
  | .choose _ yes no => (yes.width groups).union (no.width groups)

/-- Nodes that succeed in at most one way and record nothing; two of them can be compared. -/
def sameAtom : Node → Node → Bool
  | .char s, .char t => s == t
  | .anchor a, .anchor b => a == b
  | .backref g, .backref h => g == h
  | _, _ => false

end Node

end PatternLint.Pattern
