import PatternLint.Document
import PatternLint.Text.LetterCase
import PatternLint.Yaml.Binary
import PatternLint.Yaml.Graph

/-!
# The values of nodes

Every node that the root reaches gets a shape: a finished value, or a collection of other nodes.  The
nodes are visited level by level, so the first fault is the one that lies least deep.  Keys have to be
scalars; a merge key brings in the entries of other mappings, which its own mapping overrides.
-/

namespace PatternLint.Yaml

open PatternLint.Text

inductive Shape
  | leaf (d : Document)
  | list (items : List Nat)
  /-- The entries whose key is a text. -/
  | mapping (entries : List (String × Nat))

/-! ## Scalars -/

/-- The text of a node that is tagged as a scalar.  A mapping stands for the value of its value key. -/
def scalarText (g : Graph) : Nat → Nat → Except Fault String
  | 0, _ => .error .malformed
  | fuel + 1, i =>
    match (g.node i).content with
    | .scalar text => .ok text
    | .sequence _ => .error .malformed
    | .mapping entries =>
      match entries.find? fun (k, _) => (g.node k).tag = .value with
      | some (_, v) => scalarText g fuel v
      | none => .error .malformed

def truthOf (s : String) : Except Fault Bool :=
  let lower := String.ofList (toLower s.toList)
  if Tag.truths.contains lower then .ok true
  else if Tag.falsehoods.contains lower then .ok false
  else .error (.unknownBool lower)

def timestampOf (n : Node) : Except Fault Document :=
  match n.content with
  | .scalar text =>
    match Timestamp.read (Tag.withoutEnd text.toList) with
    | none => .error .notTimestamp
    | some t => do
      t.check
      .ok (.other (if t.time.isSome then .dateTime else .date))
  | _ => .error .collectionAsTimestamp

/-- The value of a text under a tag. -/
def scalarValue (n : Node) (text : String) : Except Fault Document :=
  match n.tag with
  | .null => .ok .null
  | .bool => (truthOf text).map .bool
  | .int => (integer text.toList).map .int
  | .float => (float text.toList).map fun _ => .other .float
  | .timestamp => timestampOf n
  | .binary => if isBinary text.toList then .ok (.other .bytes) else .error .malformed
  | .str => .ok (.text text)
  | _ => .error .malformed

/-- Whether a tag denotes a collection. -/
def Tag.isCollection : Tag → Bool
  | .seq | .map | .omap | .pairs | .set => true
  | _ => false

/-- The value of a node that is tagged as a scalar. -/
def leafOf (g : Graph) (i : Nat) : Except Fault Document := do
  let n := g.node i
  match n.tag with
  | .merge | .value | .unknown => .error .malformed
  | _ => scalarValue n (← scalarText g (g.size + 1) i)

/-! ## Merge keys -/

/-- The first merge key among the entries: the entries before it, its value, and those after it. -/
def splitMerge (g : Graph) : List (Nat × Nat) → Option (List (Nat × Nat) × Nat × List (Nat × Nat))
  | [] => none
  | (k, v) :: rest =>
    if (g.node k).tag = .merge then some ([], v, rest)
    else (splitMerge g rest).map fun (before, w, after) => ((k, v) :: before, w, after)

def entriesOf (g : Graph) (i : Nat) : Except Fault (List (Nat × Nat)) :=
  match (g.node i).content with
  | .mapping entries => .ok entries
  | _ => .error .malformed

def setEntries (g : Graph) (i : Nat) (entries : List (Nat × Nat)) : Graph :=
  g.set i ⟨(g.node i).tag, .mapping entries⟩

/-- A value key counts as a text once its mapping has been opened. -/
def openValueKeys (g : Graph) (entries : List (Nat × Nat)) : Graph :=
  entries.foldl
    (fun g (k, _) =>
      let n := g.node k
      if n.tag = .value then g.set k ⟨.str, n.content⟩ else g)
    g

mutual

/-- Puts the entries that a mapping's merge keys name in front of its own. -/
def flatten : Nat → Nat → Graph → Except Fault Graph
  | 0, _, g => .ok g
  | fuel + 1, i, g => do
    let (merged, g) ← collect fuel i [] g
    let own ← entriesOf g i
    .ok (openValueKeys (setEntries g i (merged ++ own)) own)

/-- Takes the merge keys out of a mapping one after the other; `merged` are the entries so far. -/
def collect : Nat → Nat → List (Nat × Nat) → Graph → Except Fault (List (Nat × Nat) × Graph)
  | 0, _, merged, g => .ok (merged, g)
  | fuel + 1, i, merged, g => do
    match splitMerge g (← entriesOf g i) with
    | none => .ok (merged, g)
    | some (before, v, after) =>
      let g := setEntries g i (before ++ after)
      match (g.node v).content with
      | .mapping _ => do
        let g ← flatten fuel v g
        collect fuel i (merged ++ (← entriesOf g v)) g
      | .sequence items => do
        let (parts, g) ← flattenAll fuel items g
        collect fuel i (merged ++ parts.reverse.flatten) g
      | .scalar _ => .error .malformed

/-- Flattens several mappings; of equal keys the first mapping's counts. -/
def flattenAll : Nat → List Nat → Graph → Except Fault (List (List (Nat × Nat)) × Graph)
  | 0, _, g => .ok ([], g)
  | _, [], g => .ok ([], g)
  | fuel + 1, j :: rest, g => do
    let _ ← entriesOf g j
    let g ← flatten fuel j g
    let entries ← entriesOf g j
    let (more, g) ← flattenAll fuel rest g
    .ok (entries :: more, g)

end

/-- How many merge keys and merged mappings there can be at most. -/
def mergeBound (g : Graph) : Nat :=
  3 * (g.nodes.foldl
    (fun n node =>
      match node.content with
      | .scalar _ => n + 1
      | .sequence items => n + 1 + items.length
      | .mapping entries => n + 1 + entries.length)
    0) + 3

/-! ## Collections -/

/-- The walk over the nodes. -/
structure Walk where
  graph : Graph
  shapes : Array (Option Shape)
  /-- Collections that were met but not yet opened, in the order in which they were met. -/
  pending : Array Nat
  /-- A bound for the work of merging. -/
  mergeFuel : Nat

namespace Walk

def start (g : Graph) : Walk := ⟨g, Array.replicate g.size none, #[], mergeBound g⟩

/-- Gives a node its shape when it is met first; a collection waits. -/
def meet (w : Walk) (i : Nat) : Except Fault Walk := do
  if (w.shapes.getD i none).isSome then .ok w
  else if (w.graph.node i).tag.isCollection then
    .ok { w with
      shapes := w.shapes.setIfInBounds i (some (.list []))
      pending := w.pending.push i }
  else
    let d ← leafOf w.graph i
    .ok { w with shapes := w.shapes.setIfInBounds i (some (.leaf d)) }

def meetAll (w : Walk) (items : List Nat) : Except Fault Walk := items.foldlM meet w

/-- Meets the keys and values of a mapping in turn, and returns the entries whose key is a text. -/
def meetEntries (w : Walk) : List (Nat × Nat) → Except Fault (List (String × Nat) × Walk)
  | [] => .ok ([], w)
  | (k, v) :: rest => do
    let w ← w.meet k
    match w.shapes.getD k none with
    | some (.leaf d) => do
      let w ← w.meet v
      let (more, w) ← w.meetEntries rest
      match d with
      | .text s => .ok ((s, v) :: more, w)
      | _ => .ok (more, w)
    | _ => .error .malformed

/-- Meets the entries of a list of mappings that have one entry each. -/
def meetPairs (w : Walk) : List Nat → Except Fault Walk
  | [] => .ok w
  | i :: rest => do
    match ← entriesOf w.graph i with
    | [(k, v)] => do
      let w ← w.meet k
      let w ← w.meet v
      w.meetPairs rest
    | _ => .error .malformed

def setShape (w : Walk) (i : Nat) (s : Shape) : Walk :=
  { w with shapes := w.shapes.setIfInBounds i (some s) }

/-- Opens a collection. -/
def expand (w : Walk) (i : Nat) : Except Fault Walk := do
  let n := w.graph.node i
  match n.tag, n.content with
  | .seq, .sequence items => do
    let w ← w.meetAll items
    .ok (w.setShape i (.list items))
  | .omap, .sequence items => do
    let w ← w.meetPairs items
    .ok (w.setShape i (.leaf (.list (items.map fun _ => .other .tuple))))
  | .pairs, .sequence items => do
    let w ← w.meetPairs items
    .ok (w.setShape i (.leaf (.list (items.map fun _ => .other .tuple))))
  | .map, .mapping _ => do
    let g ← flatten w.mergeFuel i w.graph
    let (entries, w) ← { w with graph := g }.meetEntries (← entriesOf g i)
    .ok (w.setShape i (.mapping entries))
  | .set, .mapping _ => do
    let g ← flatten w.mergeFuel i w.graph
    let (_, w) ← { w with graph := g }.meetEntries (← entriesOf g i)
    .ok (w.setShape i (.leaf (.other .set)))
  | _, _ => .error .malformed

/-- Opens the pending collections from number `k` on. -/
def run : Nat → Nat → Walk → Except Fault Walk
  | 0, _, w => .ok w
  | fuel + 1, k, w =>
    match w.pending[k]? with
    | none => .ok w
    | some i => do run fuel (k + 1) (← w.expand i)

end Walk

/-- The shapes of all nodes that the root reaches. -/
def shapes (g : Graph) (root : Nat) : Except Fault (Array (Option Shape)) := do
  let w ← (Walk.start g).meet root
  let w ← w.run (g.size + 1) 0
  .ok w.shapes

end PatternLint.Yaml
