import PatternLint.Yaml.Tag

/-!
# The nodes of a document

A document is a graph of nodes, each known by its number: an alias is another edge to the node that
it names, and a collection may contain itself.
-/

namespace PatternLint.Yaml

inductive Content
  | scalar (text : String)
  | sequence (items : List Nat)
  | mapping (entries : List (Nat × Nat))
  deriving DecidableEq, Repr

structure Node where
  tag : Tag
  content : Content
  deriving DecidableEq, Repr

/-- What stands for a node that is not there. -/
def Node.missing : Node := ⟨.unknown, .scalar ""⟩

structure Graph where
  nodes : Array Node
  /-- How many aliases the document has. -/
  aliases : Nat

namespace Graph

def empty : Graph := ⟨#[], 0⟩

def node (g : Graph) (i : Nat) : Node := g.nodes.getD i Node.missing

def size (g : Graph) : Nat := g.nodes.size

/-- Adds a node; its number is the size of the graph before. -/
def add (g : Graph) (n : Node) : Graph := { g with nodes := g.nodes.push n }

def set (g : Graph) (i : Nat) (n : Node) : Graph := { g with nodes := g.nodes.setIfInBounds i n }

def addAlias (g : Graph) : Graph := { g with aliases := g.aliases + 1 }

end Graph

end PatternLint.Yaml
