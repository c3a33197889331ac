import PatternLint.Yaml.Graph.Reading
import PatternLint.Yaml.Shape

/-!
# YAML

Reads the document of a YAML text; every JSON text is one, but for tabs between its tokens.
-/

namespace PatternLint.Yaml

/-- The document of a shape, given the documents of the nodes. -/
def Shape.document (known : Array Document) : Shape → Document
  | .leaf d => d
  | .list items => .list (items.map fun i => known.getD i .null)
  | .mapping entries => .mapping (entries.map fun (k, i) => (k, known.getD i .null))

/-- One pass over the nodes from the last to the first, so that the nodes of a collection, which come
after it, are at hand; only what an alias names may lag one pass behind. -/
def pass (shapes : Array (Option Shape)) : Nat → Array Document → Array Document
  | 0, known => known
  | i + 1, known =>
    match shapes.getD i none with
    | none => pass shapes i known
    | some s => pass shapes i (known.setIfInBounds i (s.document known))

def passes (shapes : Array (Option Shape)) : Nat → Array Document → Array Document
  | 0, known => known
  | n + 1, known => passes shapes n (pass shapes shapes.size known)

/-- How far a document that contains itself is unrolled, aliases apart; a rule set looks no deeper. -/
def unrolling : Nat := 6

/-- The document of a text. -/
def load (text : String) : Except Fault Document := do
  let (g, root) ← Graph.ofText text.toList
  match root with
  | none => .ok .null
  | some root =>
    let shapes ← shapes g root
    let start := shapes.map fun s =>
      match s with
      | some (.mapping _) => Document.mapping []
      | _ => Document.list []
    .ok ((passes shapes (g.aliases + unrolling) start).getD root .null)

end PatternLint.Yaml
