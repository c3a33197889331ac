import PatternLint.Proofs.Yaml.Number
import PatternLint.Yaml.Graph.Reading

/-!
# The nodes of a JSON text

A node is added in front of the nodes of its content, and what is read later only adds nodes.  So the
nodes that were read for a value stay what they are, and below a collection there are only nodes with
larger numbers (`Represents`).  The reader turns the tokens of a portable text into nodes that represent
its value (`read_spelling`).
-/

namespace PatternLint.Yaml

open PatternLint.Text

/-! ### Graphs that grow -/

namespace Graph

variable {g : Graph} {n : Node} {i j : Nat}

@[simp] theorem size_add : (g.add n).size = g.size + 1 := by
  simp [add, size]

@[simp] theorem size_set : (g.set i n).size = g.size := by
  simp [set, size]

@[simp] theorem node_add_self : (g.add n).node g.size = n := by
  simp [node, add, size]

theorem node_add_of_lt (h : i < g.size) : (g.add n).node i = g.node i := by
  have hne : i ≠ g.nodes.size := Nat.ne_of_lt h
  simp [node, add, Array.getD_eq_getD_getElem?, Array.getElem?_push, hne]

theorem node_set_self (h : i < g.size) : (g.set i n).node i = n := by
  have hi : i < g.nodes.size := h
  simp [node, set, hi]

theorem node_set_of_ne (h : j ≠ i) : (g.set i n).node j = g.node j := by
  simp [node, set, Array.getD_eq_getD_getElem?, Ne.symm h]

/-- Only a node that is there has a tag that is known. -/
theorem lt_size_of_tag (h : (g.node i).tag ≠ .unknown) : i < g.size := by
  by_contra hlt
  have hi : g.nodes.size ≤ i := Nat.le_of_not_lt hlt
  refine h ?_
  rw [node, Array.getD_eq_getD_getElem?, Array.getElem?_eq_none hi]
  rfl

/-- All nodes from number `low` on are the same in the other graph. -/
def Keeps (low : Nat) (g g' : Graph) : Prop := ∀ j, low ≤ j → j < g.size → g'.node j = g.node j

/-- The other graph has more nodes and no more aliases. -/
structure Grows (g g' : Graph) : Prop where
  size : g.size ≤ g'.size
  nodes : Keeps 0 g g'
  aliases : g'.aliases = g.aliases

theorem Grows.refl (g : Graph) : g.Grows g := ⟨le_refl _, fun _ _ _ => rfl, rfl⟩

theorem Grows.trans {a b c : Graph} (hab : a.Grows b) (hbc : b.Grows c) : a.Grows c := by
  refine ⟨le_trans hab.size hbc.size, fun j hj hlt => ?_, hbc.aliases.trans hab.aliases⟩
  rw [hbc.nodes j hj (lt_of_lt_of_le hlt hab.size), hab.nodes j hj hlt]

theorem grows_add (g : Graph) (n : Node) : g.Grows (g.add n) :=
  ⟨by simp, fun _ _ hlt => node_add_of_lt hlt, rfl⟩

theorem keeps_set (g : Graph) (i : Nat) (n : Node) : g.Keeps (i + 1) (g.set i n) := fun j hj _ =>
  node_set_of_ne (by omega)

/-- A node that a graph has more than another one may change. -/
theorem Grows.set {g' : Graph} (h : g.Grows g') (hi : g.size ≤ i) : g.Grows (g'.set i n) := by
  refine ⟨by rw [size_set]; exact h.size, fun j hj hlt => ?_, h.aliases⟩
  rw [node_set_of_ne (by omega), h.nodes j hj hlt]

end Graph

/-! ### What nodes represent -/

mutual

/-- The node `i` and the nodes below it represent a document. -/
inductive Represents (g : Graph) : Nat → Document → Prop
  | leaf {i : Nat} {text : String} {d : Document} (content : (g.node i).content = .scalar text)
      (value : scalarValue (g.node i) text = .ok d) : Represents g i d
  | list {i : Nat} {js : List Nat} {ds : List Document} (node : g.node i = ⟨.seq, .sequence js⟩)
      (items : RepresentsItems g i js ds) : Represents g i (.list ds)
  | mapping {i : Nat} {kvs : List (Nat × Nat)} {es : List (String × Document)}
      (node : g.node i = ⟨.map, .mapping kvs⟩) (entries : RepresentsEntries g i kvs es) :
      Represents g i (.mapping es)

/-- Items behind number `i`. -/
inductive RepresentsItems (g : Graph) : Nat → List Nat → List Document → Prop
  | nil {i : Nat} : RepresentsItems g i [] []
  | cons {i j : Nat} {js : List Nat} {d : Document} {ds : List Document} (after : i < j)
      (first : Represents g j d) (more : RepresentsItems g i js ds) :
      RepresentsItems g i (j :: js) (d :: ds)

/-- Entries behind number `i`. -/
inductive RepresentsEntries (g : Graph) : Nat → List (Nat × Nat) → List (String × Document) → Prop
  | nil {i : Nat} : RepresentsEntries g i [] []
  | cons {i k j : Nat} {kvs : List (Nat × Nat)} {s : String} {d : Document}
      {es : List (String × Document)} (name : g.node k = ⟨.str, .scalar s⟩) (nameAfter : i < k)
      (after : i < j) (first : Represents g j d) (more : RepresentsEntries g i kvs es) :
      RepresentsEntries g i ((k, j) :: kvs) ((s, d) :: es)

end

theorem tag_ne_unknown {n : Node} {text : String} {d : Document} (h : scalarValue n text = .ok d) :
    n.tag ≠ .unknown := by
  intro htag
  rw [scalarValue, htag] at h
  cases h

theorem Represents.lt_size {g : Graph} {i : Nat} {d : Document} (h : Represents g i d) : i < g.size := by
  refine Graph.lt_size_of_tag ?_
  cases h with
  | leaf content value => exact tag_ne_unknown value
  | list node items => simp [node]
  | mapping node entries => simp [node]

mutual

theorem Represents.keep {g g' : Graph} {low : Nat} (hkeep : g.Keeps low g') :
    ∀ {i : Nat} {d : Document}, low ≤ i → Represents g i d → Represents g' i d
  | i, _, hlow, .leaf content value => by
    have hnode : g'.node i = g.node i := hkeep i hlow (Represents.leaf content value).lt_size
    rw [← hnode] at content value
    exact .leaf content value
  | i, _, hlow, .list node items => by
    have hnode : g'.node i = g.node i := hkeep i hlow (Represents.list node items).lt_size
    exact .list (hnode.trans node) (items.keep hkeep (Nat.le_succ_of_le hlow))
  | i, _, hlow, .mapping node entries => by
    have hnode : g'.node i = g.node i := hkeep i hlow (Represents.mapping node entries).lt_size
    exact .mapping (hnode.trans node) (entries.keep hkeep (Nat.le_succ_of_le hlow))

theorem RepresentsItems.keep {g g' : Graph} {low : Nat} (hkeep : g.Keeps low g') :
    ∀ {i : Nat} {js : List Nat} {ds : List Document}, low ≤ i + 1 → RepresentsItems g i js ds →
      RepresentsItems g' i js ds
  | _, _, _, _, .nil => .nil
  | _, _, _, hlow, .cons after first more =>
    .cons after (first.keep hkeep (le_trans hlow after)) (more.keep hkeep hlow)

theorem RepresentsEntries.keep {g g' : Graph} {low : Nat} (hkeep : g.Keeps low g') :
    ∀ {i : Nat} {kvs : List (Nat × Nat)} {es : List (String × Document)}, low ≤ i + 1 →
      RepresentsEntries g i kvs es → RepresentsEntries g' i kvs es
  | _, _, _, _, .nil => .nil
  | _, _, _, hlow, .cons (k := k) name nameAfter after first more => by
    have hlt : k < g.size := Graph.lt_size_of_tag (by simp [name])
    have hname : g'.node k = g.node k := hkeep k (le_trans hlow nameAfter) hlt
    exact .cons (hname.trans name) nameAfter after (first.keep hkeep (le_trans hlow after))
      (more.keep hkeep hlow)

end

/-! ### Reading tokens -/

namespace Reading

variable {α β : Type} {r r' : Reader} {t : Token} {ts : List Token}

theorem run_bind_of_ok {x : Reading α} {f : α → Reading β} {a : α} (h : x.run r = .ok (a, r')) :
    (x >>= f).run r = (f a).run r' := by
  rw [StateT.run_bind, h]
  rfl

theorem run_get : (get : Reading Reader).run r = .ok (r, r) := rfl

theorem run_peek (h : r.tokens = t :: ts) : peek.run r = .ok (some t, r) := by
  unfold peek
  rw [run_bind_of_ok run_get, h]
  rfl

theorem run_peek_end (h : r.tokens = []) (hfault : r.fault = none) : peek.run r = .ok (none, r) := by
  unfold peek
  rw [run_bind_of_ok run_get, h, hfault]
  rfl

theorem run_advance (h : r.tokens = t :: ts) : advance.run r = .ok ((), { r with tokens := ts }) := by
  change Except.ok ((), { r with tokens := r.tokens.drop 1 }) = _
  rw [h]
  rfl

theorem run_accept_same (h : r.tokens = t :: ts) :
    (accept t).run r = .ok (true, { r with tokens := ts }) := by
  unfold accept
  rw [run_bind_of_ok (run_peek h), if_pos (by simp), run_bind_of_ok (run_advance h)]
  rfl

theorem run_accept_other {x : Token} (h : r.tokens = t :: ts) (hne : t ≠ x) :
    (accept x).run r = .ok (false, r) := by
  unfold accept
  rw [run_bind_of_ok (run_peek h), if_neg (by simpa using hne)]
  rfl

theorem run_expect (h : r.tokens = t :: ts) : (expect t).run r = .ok ((), { r with tokens := ts }) := by
  unfold expect
  rw [run_bind_of_ok (run_accept_same h)]
  rfl

theorem run_isNext (h : r.tokens = t :: ts) (xs : List Token) :
    (isNext xs).run r = .ok (xs.contains t, r) := by
  unfold isNext
  rw [run_bind_of_ok (run_peek h)]
  rfl

theorem run_add (n : Node) : (add n).run r = .ok (r.graph.size, { r with graph := r.graph.add n }) := rfl

theorem run_nodeUnless {ends : List Token} {m : Reading Nat} (h : r.tokens = t :: ts) (ht : t ∉ ends) :
    (nodeUnless ends m).run r = m.run r := by
  unfold nodeUnless
  rw [run_bind_of_ok (run_isNext h ends), if_neg (by simpa using ht)]

/-- The tokens that start a value. -/
inductive Opens : Token → Prop
  | scalar (text : String) (plain : Bool) : Opens (.scalar text plain)
  | list : Opens .flowSequenceStart
  | object : Opens .flowMappingStart

theorem run_properties (h : r.tokens = t :: ts) (ht : Opens t) :
    properties.run r = .ok (⟨none, none⟩, r) := by
  have hanchor : anchor?.run r = .ok (none, r) := by
    unfold anchor?
    rw [run_bind_of_ok (run_peek h)]
    cases ht <;> rfl
  have htag : tag?.run r = .ok (none, r) := by
    unfold tag?
    rw [run_bind_of_ok (run_peek h)]
    cases ht <;> rfl
  unfold properties
  rw [run_bind_of_ok hanchor, run_bind_of_ok htag]
  rfl

/-! ### Single nodes -/

variable {fuel : Nat} {place : Place}

theorem run_node_scalar {text : String} {plain : Bool} (h : r.tokens = .scalar text plain :: ts) :
    (node (fuel + 1) place).run r = .ok (r.graph.size, { r with
      tokens := ts
      graph := r.graph.add ⟨if plain then Tag.ofScalar text else .str, .scalar text⟩ }) := by
  unfold node
  rw [run_bind_of_ok (run_peek h)]
  dsimp only
  rw [run_bind_of_ok (run_properties h (.scalar text plain)), run_bind_of_ok run_get,
    run_bind_of_ok (run_peek h)]
  dsimp only
  rw [run_bind_of_ok (run_advance h)]
  rfl

theorem run_collection {tag : Tag} {body : Reading Content} {content : Content}
    (h : body.run { r with graph := r.graph.add ⟨tag, .sequence []⟩ } = .ok (content, r')) :
    (collection ⟨none, none⟩ tag body).run r =
      .ok (r.graph.size, { r' with graph := r'.graph.set r.graph.size ⟨tag, content⟩ }) := by
  unfold collection
  have hname : (nameNext none).run r = .ok ((), r) := rfl
  rw [run_bind_of_ok hname]
  dsimp only
  rw [run_bind_of_ok (run_add _)]
  refine (run_bind_of_ok h).trans ?_
  rfl

theorem run_node_list {js : List Nat} (h : r.tokens = .flowSequenceStart :: ts)
    (hitems : (flowItems (node fuel .flow) (r.tokens.length + 1) true).run
      { r with tokens := ts, graph := r.graph.add ⟨.seq, .sequence []⟩ } = .ok (js, r')) :
    (node (fuel + 1) place).run r =
      .ok (r.graph.size, { r' with graph := r'.graph.set r.graph.size ⟨.seq, .sequence js⟩ }) := by
  unfold node
  rw [run_bind_of_ok (run_peek h)]
  dsimp only
  rw [run_bind_of_ok (run_properties h .list), run_bind_of_ok run_get,
    run_bind_of_ok (run_peek h)]
  dsimp only
  rw [run_bind_of_ok (run_advance h)]
  refine run_collection (r := { r with tokens := ts }) ?_
  rw [run_bind_of_ok hitems]
  rfl

theorem run_node_object {kvs : List (Nat × Nat)} (h : r.tokens = .flowMappingStart :: ts)
    (hentries : (flowEntries (node fuel .flow) (r.tokens.length + 1) true).run
      { r with tokens := ts, graph := r.graph.add ⟨.map, .sequence []⟩ } = .ok (kvs, r')) :
    (node (fuel + 1) place).run r =
      .ok (r.graph.size, { r' with graph := r'.graph.set r.graph.size ⟨.map, .mapping kvs⟩ }) := by
  unfold node
  rw [run_bind_of_ok (run_peek h)]
  dsimp only
  rw [run_bind_of_ok (run_properties h .object), run_bind_of_ok run_get,
    run_bind_of_ok (run_peek h)]
  dsimp only
  rw [run_bind_of_ok (run_advance h)]
  refine run_collection (r := { r with tokens := ts }) ?_
  rw [run_bind_of_ok hentries]
  rfl

end Reading

/-! ### Nodes for values -/

/-- What reads some tokens and adds nodes that represent a document. -/
def ReadsNode (m : Reading Nat) (ts : List Token) (d : Document) : Prop :=
  ∀ (r : Reader) (rest : List Token), r.tokens = ts ++ rest →
    ∃ g, m.run r = .ok (r.graph.size, { r with tokens := rest, graph := g }) ∧ r.graph.Grows g ∧
      Represents g r.graph.size d

def ReadsItems (m : Reading (List Nat)) (ts : List Token) (ds : List Document) : Prop :=
  ∀ (r : Reader) (rest : List Token) (i : Nat), r.tokens = ts ++ rest → i < r.graph.size →
    ∃ js g, m.run r = .ok (js, { r with tokens := rest, graph := g }) ∧ r.graph.Grows g ∧
      RepresentsItems g i js ds

def ReadsEntries (m : Reading (List (Nat × Nat))) (ts : List Token) (es : List (String × Document)) :
    Prop :=
  ∀ (r : Reader) (rest : List Token) (i : Nat), r.tokens = ts ++ rest → i < r.graph.size →
    ∃ kvs g, m.run r = .ok (kvs, { r with tokens := rest, graph := g }) ∧ r.graph.Grows g ∧
      RepresentsEntries g i kvs es

/-- What stands in front of an item or an entry. -/
def leadTokens (first : Bool) : List Token := if first then [] else [.flowEntry]

namespace Reading

variable {flow : Reading Nat} {n fuel : Nat} {place : Place} {first : Bool} {ts ts' : List Token}

theorem readsNode_scalar {text : String} {plain : Bool} {d : Document}
    (h : scalarValue ⟨if plain then Tag.ofScalar text else .str, .scalar text⟩ text = .ok d) :
    ReadsNode (node (fuel + 1) place) [.scalar text plain] d := by
  intro r rest hr
  refine ⟨_, run_node_scalar hr, Graph.grows_add _ _, @Represents.leaf _ _ text d ?_ ?_⟩
  · rw [Graph.node_add_self]
  · rw [Graph.node_add_self, h]

theorem readsItems_end : ReadsItems (flowItems flow (n + 1) first) [.flowSequenceEnd] [] := by
  intro r rest i hr hi
  refine ⟨[], r.graph, ?_, Graph.Grows.refl _, .nil⟩
  unfold flowItems
  rw [run_bind_of_ok (run_accept_same hr)]
  rfl

theorem Opens.ne {t x : Token} (h : Opens t)
    (hx : x ∈ [.key, .value, .flowEntry, .flowSequenceEnd, .flowMappingEnd]) : t ≠ x := by
  rintro rfl
  cases h <;> simp at hx

theorem Opens.notMem {t : Token} {xs : List Token} (h : Opens t)
    (hxs : ∀ x ∈ xs, x ∈ [.key, .value, .flowEntry, .flowSequenceEnd, .flowMappingEnd]) : t ∉ xs :=
  fun hmem => h.ne (hxs t hmem) rfl

/-- Where a value starts, there is neither an entry of its own nor the end of the list. -/
theorem run_item {r : Reader} {t : Token} {pair done item : Reading (List Nat)}
    (h : r.tokens = t :: ts) (ht : Opens t) :
    (do
      if ← isNext [.key] then pair
      else if ← accept .flowSequenceEnd then done
      else item : Reading (List Nat)).run r = item.run r := by
  have hkey : [Token.key].contains t = false := by
    rw [← Bool.not_eq_true, List.contains_iff_mem]
    exact ht.notMem (by decide)
  rw [run_bind_of_ok (run_isNext h _), hkey, if_neg Bool.false_ne_true,
    run_bind_of_ok (run_accept_other h (ht.ne (by decide))), if_neg Bool.false_ne_true]

/-- The comma in front of an item, and then what starts it. -/
theorem run_flowItems {r : Reader} {t : Token} (h : r.tokens = leadTokens first ++ t :: ts)
    (ht : Opens t) : (flowItems flow (n + 1) first).run r =
      (flow >>= fun item => return item :: (← flowItems flow n false)).run
        { r with tokens := t :: ts } := by
  rw [flowItems]
  cases first with
  | true =>
    have hr : { r with tokens := t :: ts } = r := by
      rw [← show r.tokens = t :: ts from h]
    rw [run_bind_of_ok (run_accept_other h (ht.ne (by decide))), hr, if_neg Bool.false_ne_true,
      if_neg (by decide)]
    exact run_item h ht
  | false =>
    rw [run_bind_of_ok (run_accept_other h (by decide)), if_neg Bool.false_ne_true]
    dsimp only
    rw [if_pos (by decide), run_bind_of_ok (run_expect h)]
    exact run_item rfl ht

theorem readsItems_cons {t : Token} {d : Document} {ds : List Document} (ht : Opens t)
    (hflow : ReadsNode flow (t :: ts) d) (hmore : ReadsItems (flowItems flow n false) ts' ds) :
    ReadsItems (flowItems flow (n + 1) first) (leadTokens first ++ (t :: ts ++ ts')) (d :: ds) := by
  intro r rest i hr hi
  rw [List.append_assoc, List.append_assoc] at hr
  obtain ⟨g₁, hrun₁, hgrows₁, hfirst⟩ := hflow { r with tokens := t :: ts ++ (ts' ++ rest) } _ rfl
  obtain ⟨js, g₂, hrun₂, hgrows₂, hitems⟩ := hmore { r with tokens := ts' ++ rest, graph := g₁ } rest i
    rfl (lt_of_lt_of_le hi hgrows₁.size)
  refine ⟨r.graph.size :: js, g₂, ?_, hgrows₁.trans hgrows₂, ?_⟩
  · rw [run_flowItems hr ht]
    refine (run_bind_of_ok hrun₁).trans ?_
    rw [run_bind_of_ok hrun₂]
    rfl
  · exact .cons hi (hfirst.keep hgrows₂.nodes (Nat.zero_le _)) hitems

/-! ### Entries -/

theorem readsEntries_end : ReadsEntries (flowEntries flow (n + 1) first) [.flowMappingEnd] [] := by
  intro r rest i hr hi
  refine ⟨[], r.graph, ?_, Graph.Grows.refl _, .nil⟩
  rw [flowEntries, run_bind_of_ok (run_accept_same hr)]
  rfl

/-- The comma in front of an entry, and then its key. -/
theorem run_flowEntries {r : Reader} (h : r.tokens = leadTokens first ++ .key :: ts) :
    (flowEntries flow (n + 1) first).run r =
      (do
        let k ← nodeUnless [.value, .flowEntry, .flowMappingEnd] flow
        let v ← flowValue .flowMappingEnd flow
        return (k, v) :: (← flowEntries flow n false) : Reading (List (Nat × Nat))).run
          { r with tokens := ts } := by
  rw [flowEntries]
  cases first with
  | true =>
    rw [run_bind_of_ok (run_accept_other h (by decide)), if_neg Bool.false_ne_true,
      if_neg (by decide)]
    refine (run_bind_of_ok (run_accept_same h)).trans ?_
    rw [if_pos rfl]
  | false =>
    rw [run_bind_of_ok (run_accept_other h (by decide)), if_neg Bool.false_ne_true]
    dsimp only
    rw [if_pos (by decide), run_bind_of_ok (run_expect h)]
    refine (run_bind_of_ok (run_accept_same rfl)).trans ?_
    rw [if_pos rfl]

theorem run_flowValue {r : Reader} {t : Token} (h : r.tokens = .value :: t :: ts) (ht : Opens t) :
    (flowValue .flowMappingEnd flow).run r = flow.run { r with tokens := t :: ts } := by
  unfold flowValue
  rw [run_bind_of_ok (run_accept_same h), if_pos rfl]
  exact run_nodeUnless rfl (ht.notMem (by decide))

theorem readsEntries_cons {t : Token} {s : String} {d : Document} {es : List (String × Document)}
    (ht : Opens t) (hflow : ReadsNode (node (fuel + 1) .flow) (t :: ts) d)
    (hmore : ReadsEntries (flowEntries (node (fuel + 1) .flow) n false) ts' es) :
    ReadsEntries (flowEntries (node (fuel + 1) .flow) (n + 1) first)
      (leadTokens first ++ (.key :: .scalar s false :: .value :: (t :: ts) ++ ts')) ((s, d) :: es) := by
  intro r rest i hr hi
  rw [List.append_assoc, List.append_assoc] at hr
  set key : Graph := r.graph.add ⟨.str, .scalar s⟩ with hkey
  have hname : (node (fuel + 1) .flow).run
      { r with tokens := .scalar s false :: .value :: (t :: ts ++ (ts' ++ rest)) } =
      .ok (r.graph.size, { r with tokens := .value :: (t :: ts ++ (ts' ++ rest)), graph := key }) := by
    rw [run_node_scalar rfl, hkey]
    rfl
  obtain ⟨g₁, hrun₁, hgrows₁, hfirst⟩ :=
    hflow { r with tokens := t :: ts ++ (ts' ++ rest), graph := key } _ rfl
  have hsize : i < g₁.size := lt_of_lt_of_le hi (le_trans (Graph.grows_add _ _).size hgrows₁.size)
  obtain ⟨kvs, g₂, hrun₂, hgrows₂, hentries⟩ := hmore { r with tokens := ts' ++ rest, graph := g₁ } rest i
    rfl hsize
  refine ⟨(r.graph.size, key.size) :: kvs, g₂, ?_,
    (Graph.grows_add _ _).trans (hgrows₁.trans hgrows₂), ?_⟩
  · rw [run_flowEntries hr]
    refine (run_bind_of_ok ((run_nodeUnless rfl (by simp)).trans hname)).trans ?_
    refine (run_bind_of_ok ((run_flowValue rfl ht).trans hrun₁)).trans ?_
    rw [run_bind_of_ok hrun₂]
    rfl
  · have hlt : r.graph.size < key.size := by simp [hkey]
    have hnode : g₂.node r.graph.size = ⟨.str, .scalar s⟩ := by
      rw [(hgrows₁.trans hgrows₂).nodes _ (Nat.zero_le _) hlt, hkey, Graph.node_add_self]
    exact .cons hnode hi (lt_trans hi hlt) (hfirst.keep hgrows₂.nodes (Nat.zero_le _)) hentries

/-! ### Collections -/

theorem readsNode_list {ds : List Document}
    (h : ∀ m, ts.length < m → ReadsItems (flowItems (node fuel .flow) m true) ts ds) :
    ReadsNode (node (fuel + 1) place) (.flowSequenceStart :: ts) (.list ds) := by
  intro r rest hr
  have hroom : ts.length < r.tokens.length + 1 := by
    rw [hr, List.length_append, List.length_cons]
    omega
  obtain ⟨js, g, hrun, hgrows, hitems⟩ := h _ hroom
    { r with tokens := ts ++ rest, graph := r.graph.add ⟨.seq, .sequence []⟩ } rest r.graph.size rfl
    (by simp)
  have hsize : r.graph.size < g.size := by
    have := hgrows.size
    rw [Graph.size_add] at this
    omega
  refine ⟨_, run_node_list hr hrun, ((Graph.grows_add _ _).trans hgrows).set (le_refl _), ?_⟩
  exact .list (Graph.node_set_self hsize) (hitems.keep (Graph.keeps_set _ _ _) (le_refl _))

theorem readsNode_object {es : List (String × Document)}
    (h : ∀ m, ts.length < m → ReadsEntries (flowEntries (node fuel .flow) m true) ts es) :
    ReadsNode (node (fuel + 1) place) (.flowMappingStart :: ts) (.mapping es) := by
  intro r rest hr
  have hroom : ts.length < r.tokens.length + 1 := by
    rw [hr, List.length_append, List.length_cons]
    omega
  obtain ⟨kvs, g, hrun, hgrows, hentries⟩ := h _ hroom
    { r with tokens := ts ++ rest, graph := r.graph.add ⟨.map, .sequence []⟩ } rest r.graph.size rfl
    (by simp)
  have hsize : r.graph.size < g.size := by
    have := hgrows.size
    rw [Graph.size_add] at this
    omega
  refine ⟨_, run_node_object hr hrun, ((Graph.grows_add _ _).trans hgrows).set (le_refl _), ?_⟩
  exact .mapping (Graph.node_set_self hsize) (hentries.keep (Graph.keeps_set _ _ _) (le_refl _))

end Reading

/-! ### Nodes for a text -/

open Reading

theorem spellingTokens_eq_cons (x : Json.Spelling) : ∃ t ts, spellingTokens x = t :: ts ∧ Opens t := by
  cases x with
  | null => exact ⟨_, _, rfl, .scalar _ _⟩
  | bool b => cases b <;> exact ⟨_, _, rfl, .scalar _ _⟩
  | number n => exact ⟨_, _, rfl, .scalar _ _⟩
  | str s => exact ⟨_, _, rfl, .scalar _ _⟩
  | emptyList gap => exact ⟨_, _, rfl, .list⟩
  | list items => exact ⟨_, _, rfl, .list⟩
  | emptyObject gap => exact ⟨_, _, rfl, .object⟩
  | object fields => exact ⟨_, _, rfl, .object⟩

mutual

/-- The reader adds nodes for a value. -/
theorem read_spelling : ∀ (x : Json.Spelling) (place : Place) {fuel : Nat}, x.isPortable →
    (spellingTokens x).length ≤ fuel → ReadsNode (node fuel place) (spellingTokens x) x.value
  | .null, _, fuel + 1, _, _ => readsNode_scalar scalarValue_null
  | .bool true, _, fuel + 1, _, _ => readsNode_scalar scalarValue_true
  | .bool false, _, fuel + 1, _, _ => readsNode_scalar scalarValue_false
  | .number n, _, fuel + 1, hp, _ => readsNode_scalar (scalarValue_number hp)
  | .str s, _, fuel + 1, _, _ => readsNode_scalar rfl
  | .emptyList _, _, fuel + 1, _, _ => readsNode_list fun m hm => by
    obtain ⟨m, rfl⟩ := Nat.exists_eq_add_one.mpr (Nat.zero_lt_of_lt hm)
    exact readsItems_end
  | .list items, _, fuel + 1, hp, hfuel => readsNode_list fun m hm => by
    simp only [spellingTokens, List.length_cons, List.length_append, List.length_nil] at hfuel hm
    exact read_items items hp (by omega) (by omega)
  | .emptyObject _, _, fuel + 1, _, _ => readsNode_object fun m hm => by
    obtain ⟨m, rfl⟩ := Nat.exists_eq_add_one.mpr (Nat.zero_lt_of_lt hm)
    exact readsEntries_end
  | .object fields, _, fuel + 1, hp, hfuel => readsNode_object fun m hm => by
    simp only [spellingTokens, List.length_cons, List.length_append, List.length_nil] at hfuel hm
    exact read_fields fields hp (by omega) (by omega)

theorem read_items : ∀ (is : Json.Items) {fuel n : Nat} {first : Bool}, is.isPortable →
    (itemsTokens is).length ≤ fuel → (itemsTokens is).length < n →
    ReadsItems (flowItems (node fuel .flow) n first)
      (leadTokens first ++ (itemsTokens is ++ [.flowSequenceEnd])) is.values
  | .one (.mk before v after), fuel, n, first, hp, hfuel, hn => by
    simp only [itemsTokens, itemTokens] at hfuel hn ⊢
    have hflow := read_spelling v .flow hp hfuel
    obtain ⟨t, ts, hv, ht⟩ := spellingTokens_eq_cons v
    rw [hv] at hflow hn ⊢
    rw [List.length_cons] at hn
    obtain ⟨m, rfl⟩ : ∃ m, n = m + 2 := ⟨n - 2, by omega⟩
    exact readsItems_cons ht hflow readsItems_end
  | .more (.mk before v after) is, fuel, n, first, hp, hfuel, hn => by
    simp only [Json.Items.isPortable, Json.Item.isPortable, Bool.and_eq_true] at hp
    simp only [itemsTokens, itemTokens, List.length_append, List.length_cons] at hfuel hn ⊢
    obtain ⟨m, rfl⟩ : ∃ m, n = m + 1 := ⟨n - 1, by omega⟩
    have hflow := read_spelling v .flow hp.1 (by omega : _ ≤ fuel)
    have hmore : ReadsItems (flowItems (node fuel .flow) m false) _ is.values :=
      read_items is hp.2 (by omega) (by omega)
    obtain ⟨t, ts, hv, ht⟩ := spellingTokens_eq_cons v
    rw [hv] at hflow ⊢
    rw [List.append_assoc]
    exact readsItems_cons ht hflow hmore

theorem read_fields : ∀ (ms : Json.Fields) {fuel n : Nat} {first : Bool}, ms.isPortable →
    (fieldsTokens ms).length ≤ fuel → (fieldsTokens ms).length < n →
    ReadsEntries (flowEntries (node fuel .flow) n first)
      (leadTokens first ++ (fieldsTokens ms ++ [.flowMappingEnd])) ms.values
  | .one (.mk before name gap inner v after), fuel, n, first, hp, hfuel, hn => by
    simp only [Json.Fields.isPortable, Json.Field.isPortable, Bool.and_eq_true] at hp
    simp only [fieldsTokens, fieldTokens, List.length_cons] at hfuel hn ⊢
    obtain ⟨fuel, rfl⟩ : ∃ k, fuel = k + 1 := ⟨fuel - 1, by omega⟩
    obtain ⟨m, rfl⟩ : ∃ m, n = m + 2 := ⟨n - 2, by omega⟩
    have hflow := read_spelling v .flow hp.2 (by omega : _ ≤ fuel + 1)
    obtain ⟨t, ts, hv, ht⟩ := spellingTokens_eq_cons v
    rw [hv] at hflow ⊢
    exact readsEntries_cons ht hflow readsEntries_end
  | .more (.mk before name gap inner v after) ms, fuel, n, first, hp, hfuel, hn => by
    simp only [Json.Fields.isPortable, Json.Field.isPortable, Bool.and_eq_true] at hp
    simp only [fieldsTokens, fieldTokens, List.length_append, List.length_cons] at hfuel hn ⊢
    obtain ⟨fuel, rfl⟩ : ∃ k, fuel = k + 1 := ⟨fuel - 1, by omega⟩
    obtain ⟨m, rfl⟩ : ∃ m, n = m + 1 := ⟨n - 1, by omega⟩
    have hflow := read_spelling v .flow hp.1.2 (by omega : _ ≤ fuel + 1)
    have hmore : ReadsEntries (flowEntries (node (fuel + 1) .flow) m false) _ ms.values :=
      read_fields ms hp.2 (by omega) (by omega)
    obtain ⟨t, ts, hv, ht⟩ := spellingTokens_eq_cons v
    rw [hv] at hflow ⊢
    rw [List.append_assoc]
    exact readsEntries_cons ht hflow hmore

end

theorem run_skipEnds {r : Reader} (h : r.tokens = []) (hfault : r.fault = none) (n : Nat) :
    (skipEnds n).run r = .ok ((), r) := by
  cases n with
  | zero => rfl
  | succ n =>
    have haccept : (accept .documentEnd).run r = .ok (false, r) := by
      unfold accept
      rw [run_bind_of_ok (run_peek_end h hfault)]
      rfl
    rw [skipEnds, run_bind_of_ok haccept]
    rfl

/-- A text whose tokens are those of one value is a document. -/
theorem run_document {r r' : Reader} {t : Token} {ts : List Token} {root : Nat} (h : r.tokens = t :: ts)
    (ht : Opens t) (hnode : (node (2 * r.tokens.length + 2) .block).run r = .ok (root, r'))
    (hend : r'.tokens = []) (hfault : r'.fault = none) : document.run r = .ok (some root, r') := by
  unfold document
  rw [run_bind_of_ok run_get, run_bind_of_ok (run_peek h)]
  dsimp only
  split
  · cases ht
  · cases ht
  · rw [if_neg Bool.false_ne_true, run_bind_of_ok hnode, run_bind_of_ok (run_skipEnds hend hfault _),
      run_bind_of_ok (run_peek_end hend hfault)]
    rfl

/-- The graph of a portable text, and its root. -/
theorem ofText_textWith {t : Json.Source} (h : t.isPortable) (htab : t.isTabbed = false) :
    ∃ g, Graph.ofText (t.textWith unifyLineEnds) = .ok (g, some 0) ∧ g.aliases = 0 ∧
      Represents g 0 t.value := by
  have htokens := tokens_textWith h
  rw [htab, if_neg Bool.false_ne_true] at htokens
  obtain ⟨x, ts, hx, hopens⟩ := spellingTokens_eq_cons t.root
  set r : Reader := ⟨spellingTokens t.root, none, .empty, [], defaultHandles⟩ with hr
  have hfuel : (spellingTokens t.root).length ≤ 2 * r.tokens.length + 2 := by
    change _ ≤ 2 * (spellingTokens t.root).length + 2
    omega
  obtain ⟨g, hrun, hgrows, hroot⟩ :=
    read_spelling t.root .block h hfuel r [] (by rw [List.append_nil])
  refine ⟨g, ?_, hgrows.aliases, hroot⟩
  unfold Graph.ofText
  rw [htokens]
  dsimp only
  rw [← hr, run_document hx hopens hrun rfl rfl]
  rfl

end PatternLint.Yaml
