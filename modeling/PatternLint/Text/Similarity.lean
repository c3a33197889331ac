/-!
# Similar words

Two words are similar if at least three fifths of their characters belong to matching blocks: the longest
block they share, and then the longest ones left and right of it.
-/

namespace PatternLint.Text

/-- The length of the longest start that two lists share. -/
def sharedStart : List Char → List Char → Nat
  | a :: as, b :: bs => if a = b then sharedStart as bs + 1 else 0
  | _, _ => 0

/-- A block that two words share: where it starts in each, and how long it is. -/
structure Block where
  left : Nat
  right : Nat
  size : Nat

/-- The longest shared block; of several the one that comes first in `a`, and then in `b`. -/
def longestBlock (a b : List Char) : Block :=
  (List.range a.length).foldl
    (fun best i =>
      (List.range b.length).foldl
        (fun best j =>
          let size := sharedStart (a.drop i) (b.drop j)
          if best.size < size then ⟨i, j, size⟩ else best)
        best)
    ⟨0, 0, 0⟩

/-- How many characters of two words belong to matching blocks. -/
def matching : Nat → List Char → List Char → Nat
  | 0, _, _ => 0
  | fuel + 1, a, b =>
    let block := longestBlock a b
    if block.size = 0 then 0
    else
      block.size + matching fuel (a.take block.left) (b.take block.right) +
        matching fuel (a.drop (block.left + block.size)) (b.drop (block.right + block.size))

/-- How similar two words are: the matching characters and all characters. -/
def similarity (a b : String) : Nat × Nat :=
  (2 * matching (a.length + 1) a.toList b.toList, a.length + b.length)

/-- Whether a share is smaller than another one. -/
def smallerShare (x y : Nat × Nat) : Bool := x.1 * y.2 < y.1 * x.2

/-- At most three words that are similar to a given one, in alphabetical order. -/
def similarWords (word : String) (words : List String) : List String :=
  let near := (words.map fun w => (similarity w word, w)).filter fun (s, _) =>
    3 * s.2 ≤ 5 * s.1
  let sorted := near.mergeSort fun x y =>
    smallerShare y.1 x.1 || (!smallerShare x.1 y.1 && y.2 ≤ x.2)
  ((sorted.take 3).map (·.2)).mergeSort (· ≤ ·)

end PatternLint.Text
