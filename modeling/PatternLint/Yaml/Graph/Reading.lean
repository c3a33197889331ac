import PatternLint.Yaml.Graph
import PatternLint.Yaml.Token.Lexer

/-!
# From tokens to nodes

Reads the one document of a text.  An anchor names its node before the content is read, so that the
content can refer to it; no two nodes of a document share an anchor.  Collections may be nested as deep as
they like.
-/

namespace PatternLint.Yaml

structure Reader where
  tokens : List Token
  /-- The fault behind the last token. -/
  fault : Option Fault
  graph : Graph
  anchors : List (String × Nat)
  /-- What the handles of tags stand for. -/
  handles : List (String × String)

abbrev Reading := StateT Reader (Except Fault)

namespace Reading

def fail {α : Type} : Reading α := throw .malformed

/-- The next token, which stays; none at the end of the text. -/
def peek : Reading (Option Token) := do
  let r ← get
  match r.tokens, r.fault with
  | t :: _, _ => return some t
  | [], some f => throw f
  | [], none => return none

def advance : Reading Unit := modify fun r => { r with tokens := r.tokens.drop 1 }

/-- Goes past a token if it comes next. -/
def accept (t : Token) : Reading Bool := do
  if (← peek) == some t then
    advance
    return true
  else return false

def expect (t : Token) : Reading Unit := do
  if ← accept t then return () else fail

/-- Whether one of some tokens comes next. -/
def isNext (ts : List Token) : Reading Bool := do
  match ← peek with
  | some t => return ts.contains t
  | none => return false

/-! ## Nodes -/

/-- Adds a node. -/
def add (n : Node) : Reading Nat := do
  let r ← get
  set { r with graph := r.graph.add n }
  return r.graph.size

def emptyScalar : Reading Nat := add ⟨.null, .scalar ""⟩

/-- Gives the node that is added next a name, unless the name is taken. -/
def nameNext (anchor : Option String) : Reading Unit := do
  match anchor with
  | none => return ()
  | some name =>
    let r ← get
    if (r.anchors.lookup name).isSome then fail
    else set { r with anchors := (name, r.graph.size) :: r.anchors }

def aliased (name : String) : Reading Nat := do
  let r ← get
  match r.anchors.lookup name with
  | none => fail
  | some i =>
    set { r with graph := r.graph.addAlias }
    return i

/-- The anchor and the tag in front of a node, in either order. -/
structure Properties where
  anchor : Option String
  /-- The full name of the tag. -/
  tag : Option String

def resolveTag (handle : Option String) (suffix : String) : Reading String := do
  match handle with
  | none => return suffix
  | some h =>
    match (← get).handles.lookup h with
    | some expansion => return expansion ++ suffix
    | none => fail

def anchor? : Reading (Option String) := do
  match ← peek with
  | some (.anchor name) =>
    advance
    return some name
  | _ => return none

def tag? : Reading (Option (Option String × String)) := do
  match ← peek with
  | some (.tag handle suffix) =>
    advance
    return some (handle, suffix)
  | _ => return none

def properties : Reading Properties := do
  let before ← anchor?
  let tag ← tag?
  let anchor ← if before.isNone && tag.isSome then anchor? else pure before
  match tag with
  | none => return ⟨anchor, none⟩
  | some (handle, suffix) => return ⟨anchor, some (← resolveTag handle suffix)⟩

/-- The tag of a collection. -/
def Properties.collectionTag (p : Properties) (fallback : Tag) : Tag :=
  match p.tag with
  | none => fallback
  | some name => if name == "!" then fallback else Tag.ofName name

/-- The tag of a scalar: a plain one without a tag, and one with the lone mark, goes by its form. -/
def Properties.scalarTag (p : Properties) (text : String) (plain : Bool) : Tag :=
  match p.tag with
  | none => if plain then Tag.ofScalar text else .str
  | some name => if name == "!" then Tag.ofScalar text else Tag.ofName name

/-- A collection: its node comes before the nodes of its content. -/
def collection (p : Properties) (fallback : Tag) (body : Reading Content) : Reading Nat := do
  nameNext p.anchor
  let tag := p.collectionTag fallback
  let i ← add ⟨tag, .sequence []⟩
  let content ← body
  modify fun r => { r with graph := r.graph.set i ⟨tag, content⟩ }
  return i

/-- A scalar. -/
def scalar (p : Properties) (text : String) (plain : Bool) : Reading Nat := do
  nameNext p.anchor
  add ⟨p.scalarTag text plain, .scalar text⟩

/-! ## Collections

`block`, `value` and `flow` read a node of a block, the value of a key in a block, and a node of a flow
collection. -/

/-- A node, or an empty scalar where a token of `ends` comes next. -/
def nodeUnless (ends : List Token) (node : Reading Nat) : Reading Nat := do
  if ← isNext ends then emptyScalar else node

/-- The entries of a sequence in a block, up to the first token that starts none. -/
def blockItems (ends : List Token) (block : Reading Nat) : Nat → Reading (List Nat)
  | 0 => fail
  | fuel + 1 => do
    if ← accept .blockEntry then
      let item ← nodeUnless ends block
      return item :: (← blockItems ends block fuel)
    else return []

def blockSequence (block : Reading Nat) (fuel : Nat) : Reading Content := do
  let items ← blockItems [.blockEntry, .blockEnd] block fuel
  expect .blockEnd
  return .sequence items

/-- A sequence that stands at the column of the key before it. -/
def flushSequence (block : Reading Nat) (fuel : Nat) : Reading Content :=
  return .sequence (← blockItems [.blockEntry, .key, .value, .blockEnd] block fuel)

def blockEntries (value : Reading Nat) : Nat → Reading (List (Nat × Nat))
  | 0 => fail
  | fuel + 1 => do
    if ← accept .key then
      let ends : List Token := [.key, .value, .blockEnd]
      let k ← nodeUnless ends value
      let v ← if ← accept .value then nodeUnless ends value else emptyScalar
      return (k, v) :: (← blockEntries value fuel)
    else return []

def blockMapping (value : Reading Nat) (fuel : Nat) : Reading Content := do
  let entries ← blockEntries value fuel
  expect .blockEnd
  return .mapping entries

/-- The value behind a key in a flow collection that `close` ends. -/
def flowValue (close : Token) (flow : Reading Nat) : Reading Nat := do
  if ← accept .value then nodeUnless [.flowEntry, close] flow else emptyScalar

/-- A mapping of one entry among the items of a flow sequence. -/
def flowPair (flow : Reading Nat) : Reading Nat :=
  collection ⟨none, none⟩ .map do
    advance
    let k ← nodeUnless [.value, .flowEntry, .flowSequenceEnd] flow
    let v ← flowValue .flowSequenceEnd flow
    return .mapping [(k, v)]

def flowItems (flow : Reading Nat) : Nat → Bool → Reading (List Nat)
  | 0, _ => fail
  | fuel + 1, first => do
    if ← accept .flowSequenceEnd then return []
    else
      if !first then expect .flowEntry
      if ← isNext [.key] then
        let item ← flowPair flow
        return item :: (← flowItems flow fuel false)
      else if ← accept .flowSequenceEnd then return []
      else
        let item ← flow
        return item :: (← flowItems flow fuel false)

def flowEntries (flow : Reading Nat) : Nat → Bool → Reading (List (Nat × Nat))
  | 0, _ => fail
  | fuel + 1, first => do
    if ← accept .flowMappingEnd then return []
    else
      if !first then expect .flowEntry
      if ← accept .key then
        let k ← nodeUnless [.value, .flowEntry, .flowMappingEnd] flow
        let v ← flowValue .flowMappingEnd flow
        return (k, v) :: (← flowEntries flow fuel false)
      else if ← accept .flowMappingEnd then return []
      else
        let k ← flow
        let v ← emptyScalar
        return (k, v) :: (← flowEntries flow fuel false)

/-- Where a node stands: in a flow collection, in a block, or behind a key of a block. -/
inductive Place
  | flow
  | block
  | value
  deriving DecidableEq, Repr

/-- A node.  `fuel` bounds how deep nodes are nested. -/
def node : Nat → Place → Reading Nat
  | 0, _ => fail
  | fuel + 1, place => do
    match ← peek with
    | some (.alias name) =>
      advance
      aliased name
    | _ =>
      let p ← properties
      let bound := (← get).tokens.length + 1
      let t ← peek
      match t with
      | some (.scalar text plain) =>
        advance
        scalar p text plain
      | some .flowSequenceStart =>
        advance
        collection p .seq (return .sequence (← flowItems (node fuel .flow) bound true))
      | some .flowMappingStart =>
        advance
        collection p .map (return .mapping (← flowEntries (node fuel .flow) bound true))
      | _ =>
        if t == some .blockEntry && place = .value then
          collection p .seq (flushSequence (node fuel .block) bound)
        else if t == some .blockSequenceStart && place ≠ .flow then
          advance
          collection p .seq (blockSequence (node fuel .block) bound)
        else if t == some .blockMappingStart && place ≠ .flow then
          advance
          collection p .map (blockMapping (node fuel .value) bound)
        else if p.anchor.isSome || p.tag.isSome then scalar p "" true
        else fail

/-! ## Documents -/

def defaultHandles : List (String × String) := [("!", "!"), ("!!", Tag.standard)]

/-- The directives before a document: at most one version, and no handle twice. -/
def directives : Nat → Bool → List (String × String) → Reading (List (String × String))
  | 0, _, handles => return handles
  | fuel + 1, versioned, handles => do
    match ← peek with
    | some (.directive d) =>
      advance
      match d with
      | .version major _ =>
        if versioned || major ≠ 1 then fail else directives fuel true handles
      | .tagHandle handle expansion =>
        if (handles.lookup handle).isSome then fail
        else directives fuel versioned ((handle, expansion) :: handles)
      | .unknown => directives fuel versioned handles
    | _ => return handles

/-- Whether a document ends here. -/
def atDocumentEnd : Reading Bool := do
  match ← peek with
  | none => return true
  | some (.directive _) => return true
  | some t => return t == .documentStart || t == .documentEnd

def explicitDocument (bound : Nat) : Reading Nat := do
  let handles ← directives bound false []
  modify fun r => { r with handles := handles ++ defaultHandles }
  expect .documentStart
  if ← atDocumentEnd then emptyScalar else node bound .block

/-- Goes past the ends of documents. -/
def skipEnds : Nat → Reading Unit
  | 0 => return ()
  | fuel + 1 => do
    if ← accept .documentEnd then skipEnds fuel else return ()

/-- The node of the only document; none if the text is empty. -/
def document : Reading (Option Nat) := do
  let bound := 2 * (← get).tokens.length + 2
  match ← peek with
  | none => return none
  | some t =>
    let explicit := match t with
      | .directive _ | .documentStart => true
      | _ => false
    let root ← if explicit then explicitDocument bound else node bound .block
    skipEnds bound
    if (← peek).isSome then fail else return some root

end Reading

/-- The graph of a text and the number of its root. -/
def Graph.ofText (text : List Char) : Except Fault (Graph × Option Nat) := do
  let ts := tokens text
  let (root, r) ← Reading.document.run ⟨ts.found, ts.fault, .empty, [], Reading.defaultHandles⟩
  return (r.graph, root)

end PatternLint.Yaml
