import PatternLint.Proofs.Yaml.Nodes
import PatternLint.Yaml

/-!
# From nodes to the document

Where every node represents a document there is nothing to merge, and the walk gives each node that it
meets the shape that its content has (`Graph.shapeOf`): a scalar at once, a collection when it is opened.
A node waits until then; when none waits any more, all nodes below a met one are met too
(`Walk.Sound`).  Since nodes come after the collections that hold them, one pass from the last to the first
then finds every document (`pass_fixed`).
-/

namespace PatternLint.Yaml

open PatternLint.Text

/-! ### Shapes -/

namespace Graph

def textOf (g : Graph) (k : Nat) : String :=
  match (g.node k).content with
  | .scalar s => s
  | _ => ""

/-- The shape that a node has by its content. -/
def shapeOf (g : Graph) (i : Nat) : Shape :=
  match (g.node i).content with
  | .scalar text => .leaf ((scalarValue (g.node i) text).toOption.getD .null)
  | .sequence js => .list js
  | .mapping kvs => .mapping (kvs.map fun (k, j) => (g.textOf k, j))

/-- The nodes right below a node. -/
def below (g : Graph) (i : Nat) : List Nat :=
  match (g.node i).content with
  | .scalar _ => []
  | .sequence js => js
  | .mapping kvs => kvs.flatMap fun (k, j) => [k, j]

end Graph

section Represents

variable {g : Graph} {i : Nat}

/-- The tags of scalars. -/
def Tag.isScalar : Tag → Bool
  | .null | .bool | .int | .float | .timestamp | .binary | .str => true
  | _ => false

theorem isScalar_of_scalarValue {n : Node} {text : String} {d : Document}
    (h : scalarValue n text = .ok d) : n.tag.isScalar = true := by
  by_contra hscalar
  have hfault : scalarValue n text = .error .malformed := by
    unfold scalarValue
    split <;> simp_all [Tag.isScalar]
  rw [hfault] at h
  cases h

theorem isCollection_of_scalarValue {n : Node} {text : String} {d : Document}
    (h : scalarValue n text = .ok d) : n.tag.isCollection = false := by
  have hall : ∀ t : Tag, t.isScalar = true → t.isCollection = false := by
    intro t
    cases t <;> decide
  exact hall _ (isScalar_of_scalarValue h)

/-- A scalar has its value at once. -/
theorem leafOf_eq {text : String} {d : Document} (content : (g.node i).content = .scalar text)
    (value : scalarValue (g.node i) text = .ok d) : leafOf g i = .ok d := by
  have htext : scalarText g (g.size + 1) i = .ok text := by
    rw [scalarText, content]
  have hscalar := isScalar_of_scalarValue value
  unfold leafOf
  dsimp only
  rw [htext]
  split
  · next htag => simp [htag, Tag.isScalar] at hscalar
  · next htag => simp [htag, Tag.isScalar] at hscalar
  · next htag => simp [htag, Tag.isScalar] at hscalar
  · exact value

theorem shapeOf_scalar {text : String} {d : Document} (content : (g.node i).content = .scalar text)
    (value : scalarValue (g.node i) text = .ok d) : g.shapeOf i = .leaf d ∧ g.below i = [] := by
  rw [Graph.shapeOf, Graph.below, content]
  dsimp only
  rw [value]
  exact ⟨rfl, rfl⟩

theorem shapeOf_list {js : List Nat} (node : g.node i = ⟨.seq, .sequence js⟩) :
    g.shapeOf i = .list js ∧ g.below i = js := by
  rw [Graph.shapeOf, Graph.below, node]
  exact ⟨rfl, rfl⟩

theorem shapeOf_mapping {kvs : List (Nat × Nat)} (node : g.node i = ⟨.map, .mapping kvs⟩) :
    g.shapeOf i = .mapping (kvs.map fun (k, j) => (g.textOf k, j)) ∧
      g.below i = kvs.flatMap fun (k, j) => [k, j] := by
  rw [Graph.shapeOf, Graph.below, node]
  exact ⟨rfl, rfl⟩

theorem RepresentsItems.after : ∀ {js : List Nat} {ds : List Document}, RepresentsItems g i js ds →
    ∀ j ∈ js, i < j ∧ ∃ d, Represents g j d
  | _, _, .nil => by simp
  | _, _, .cons after first more => by
    intro j hj
    rcases List.mem_cons.mp hj with rfl | hj
    · exact ⟨after, _, first⟩
    · exact more.after j hj

theorem RepresentsEntries.after : ∀ {kvs : List (Nat × Nat)} {es : List (String × Document)},
    RepresentsEntries g i kvs es →
      ∀ p ∈ kvs, (∃ s, g.node p.1 = ⟨.str, .scalar s⟩) ∧ i < p.2 ∧ ∃ d, Represents g p.2 d
  | _, _, .nil => by simp
  | _, _, .cons name nameAfter after first more => by
    intro p hp
    rcases List.mem_cons.mp hp with rfl | hp
    · exact ⟨⟨_, name⟩, after, _, first⟩
    · exact more.after p hp

end Represents

/-! ### Nothing to merge -/

theorem Graph.set_node {g : Graph} {i : Nat} {n : Node} (hi : i < g.size) (h : g.node i = n) :
    g.set i n = g := by
  have hlt : i < g.nodes.size := hi
  have hget : g.nodes[i]? = some n := by
    rw [Graph.node, Array.getD_eq_getD_getElem?, Array.getElem?_eq_getElem hlt] at h
    rw [Array.getElem?_eq_getElem hlt]
    exact congrArg some h
  have hnodes : g.nodes.setIfInBounds i n = g.nodes := by
    refine Array.ext_getElem? fun j => ?_
    by_cases hj : i = j
    · rw [← hj, Array.getElem?_setIfInBounds_self_of_lt hlt, hget]
    · rw [Array.getElem?_setIfInBounds_ne hj]
  rw [Graph.set, hnodes]

theorem splitMerge_eq_none {g : Graph} {kvs : List (Nat × Nat)}
    (h : ∀ p ∈ kvs, (g.node p.1).tag = .str) : splitMerge g kvs = none := by
  induction kvs with
  | nil => rfl
  | cons p kvs ih =>
    have hp := h p List.mem_cons_self
    have hmore := ih fun q hq => h q (List.mem_cons_of_mem _ hq)
    obtain ⟨k, v⟩ := p
    rw [splitMerge, if_neg (by rw [hp]; decide), hmore]
    rfl

theorem openValueKeys_eq {g : Graph} {kvs : List (Nat × Nat)}
    (h : ∀ p ∈ kvs, (g.node p.1).tag = .str) : openValueKeys g kvs = g := by
  unfold openValueKeys
  induction kvs with
  | nil => rfl
  | cons p kvs ih =>
    have hp := h p List.mem_cons_self
    have hmore := ih fun q hq => h q (List.mem_cons_of_mem _ hq)
    rw [List.foldl_cons]
    dsimp only
    rw [if_neg (by rw [hp]; decide)]
    exact hmore

/-- A mapping whose keys are all texts stays as it is. -/
theorem flatten_eq {g : Graph} {i : Nat} {kvs : List (Nat × Nat)}
    (hnode : g.node i = ⟨.map, .mapping kvs⟩) (h : ∀ p ∈ kvs, (g.node p.1).tag = .str) (fuel : Nat) :
    flatten fuel i g = .ok g := by
  have hentries : entriesOf g i = .ok kvs := by
    rw [entriesOf, hnode]
  have hcollect : ∀ n, collect n i [] g = .ok ([], g) := by
    intro n
    cases n with
    | zero => rw [collect]
    | succ n =>
      rw [collect]
      simp only [hentries, bind, Except.bind, splitMerge_eq_none h]
  have hset : setEntries g i kvs = g := by
    refine Graph.set_node (Graph.lt_size_of_tag (by simp [hnode])) ?_
    rw [hnode]
  cases fuel with
  | zero => rw [flatten]
  | succ fuel =>
    rw [flatten, hcollect]
    change (entriesOf g i).bind _ = _
    rw [hentries]
    change Except.ok (openValueKeys (setEntries g i ([] ++ kvs)) kvs) = _
    rw [List.nil_append, hset, openValueKeys_eq h]

/-! ### The walk -/

namespace Walk

/-- The shape of a node, once it is met. -/
def shape (w : Walk) (i : Nat) : Option Shape := w.shapes.getD i none

/-- The collections from position `k` on, which are still to be opened. -/
def waiting (w : Walk) (k : Nat) : List Nat := w.pending.toList.drop k

/-- What holds when the collections before position `k` have been opened. -/
structure Sound (g : Graph) (w : Walk) (k : Nat) : Prop where
  graph : w.graph = g
  size : w.shapes.size = g.size
  place : k ≤ w.pending.size
  represents : ∀ i, (w.shape i).isSome → ∃ d, Represents g i d
  shaped : ∀ i s, w.shape i = some s → i ∉ w.waiting k → s = g.shapeOf i
  closed : ∀ i, (w.shape i).isSome → i ∉ w.waiting k → ∀ j ∈ g.below i, (w.shape j).isSome
  pending : ∀ i ∈ w.pending.toList, (w.shape i).isSome ∧ (g.node i).tag.isCollection = true
  nodup : w.pending.toList.Nodup

/-- Meeting nodes changes nothing about those that were met before. -/
structure Extends (w w' : Walk) : Prop where
  shapes : ∀ i s, w.shape i = some s → w'.shape i = some s
  pending : ∃ more, w'.pending.toList = w.pending.toList ++ more

theorem Extends.refl (w : Walk) : w.Extends w := ⟨fun _ _ h => h, [], by simp⟩

theorem Extends.trans {a b c : Walk} (hab : a.Extends b) (hbc : b.Extends c) : a.Extends c := by
  obtain ⟨more, hmore⟩ := hab.pending
  obtain ⟨more', hmore'⟩ := hbc.pending
  refine ⟨fun i s h => hbc.shapes i s (hab.shapes i s h), more ++ more', ?_⟩
  rw [hmore', hmore, List.append_assoc]

theorem Extends.isSome {w w' : Walk} (h : w.Extends w') {i : Nat} (hi : (w.shape i).isSome) :
    (w'.shape i).isSome := by
  obtain ⟨s, hs⟩ := Option.isSome_iff_exists.mp hi
  rw [h.shapes i s hs]
  rfl

section Walk

variable {g : Graph} {w : Walk} {k i j : Nat}

theorem shape_setShape (s : Shape) (hi : i < w.shapes.size) :
    (w.setShape i s).shape j = if j = i then some s else w.shape j := by
  unfold setShape shape
  rw [Array.getD_eq_getD_getElem?, Array.getD_eq_getD_getElem?, Array.getElem?_setIfInBounds]
  by_cases hj : i = j
  · rw [if_pos hj, if_pos (hj ▸ hi), if_pos hj.symm]
    rfl
  · rw [if_neg hj, if_neg (Ne.symm hj)]

theorem isSome_setShape {s : Shape} (hi : i < w.shapes.size) (hj : (w.shape j).isSome) :
    ((w.setShape i s).shape j).isSome := by
  rw [shape_setShape s hi]
  split_ifs
  · rfl
  · exact hj

theorem extends_setShape {s : Shape} (hi : i < w.shapes.size) (hnone : w.shape i = none) :
    w.Extends (w.setShape i s) := by
  refine ⟨fun j t hj => ?_, [], by simp [setShape]⟩
  rw [shape_setShape s hi, if_neg, hj]
  rintro rfl
  rw [hnone] at hj
  cases hj

/-- A scalar is met. -/
theorem Sound.meetLeaf {d : Document} (h : Sound g w k) (hd : Represents g i d)
    (hshape : g.shapeOf i = .leaf d) (hbelow : g.below i = []) :
    Sound g (w.setShape i (.leaf d)) k := by
  have hi : i < w.shapes.size := h.size ▸ hd.lt_size
  refine ⟨h.graph, by simp [setShape, h.size], h.place, fun j hj => ?_, fun j s hj hwait => ?_,
    fun j hj hwait x hx => ?_, fun j hj => ?_, h.nodup⟩
  · rw [shape_setShape _ hi] at hj
    split_ifs at hj with heq
    · exact heq ▸ ⟨d, hd⟩
    · exact h.represents j hj
  · rw [shape_setShape _ hi] at hj
    split_ifs at hj with heq
    · rw [heq, hshape, ← Option.some.inj hj]
    · exact h.shaped j s hj hwait
  · rw [shape_setShape _ hi] at hj
    split_ifs at hj with heq
    · rw [heq, hbelow] at hx
      cases hx
    · exact isSome_setShape hi (h.closed j hj hwait x hx)
  · exact ⟨isSome_setShape hi (h.pending j hj).1, (h.pending j hj).2⟩

/-- A walk in which a collection waits. -/
def enqueue (w : Walk) (i : Nat) : Walk :=
  { w.setShape i (.list []) with pending := w.pending.push i }

theorem waiting_enqueue (h : k ≤ w.pending.size) : (w.enqueue i).waiting k = w.waiting k ++ [i] := by
  unfold waiting enqueue
  rw [Array.toList_push, List.drop_append_of_le_length (by simpa using h)]

/-- A collection is met. -/
theorem Sound.enqueue {d : Document} (h : Sound g w k) (hd : Represents g i d) (hnone : w.shape i = none)
    (hcollection : (g.node i).tag.isCollection = true) : Sound g (w.enqueue i) k := by
  have hi : i < w.shapes.size := h.size ▸ hd.lt_size
  have hshape : ∀ j, (w.enqueue i).shape j = if j = i then some (.list []) else w.shape j := fun j =>
    shape_setShape _ hi
  have hsome : ∀ j, (w.shape j).isSome → ((w.enqueue i).shape j).isSome := fun j => isSome_setShape hi
  have hpending : ∀ j ∈ (w.enqueue i).pending.toList, j ∈ w.pending.toList ∨ j = i := by
    intro j hj
    simpa [Walk.enqueue] using hj
  refine ⟨h.graph, by simp [Walk.enqueue, setShape, h.size], ?_, fun j hj => ?_, fun j s hj hwait => ?_,
    fun j hj hwait x hx => ?_, fun j hj => ?_, ?_⟩
  · rw [Walk.enqueue, Array.size_push]
    exact Nat.le_succ_of_le h.place
  · rw [hshape] at hj
    split_ifs at hj with heq
    · exact heq ▸ ⟨d, hd⟩
    · exact h.represents j hj
  · rw [waiting_enqueue h.place, List.mem_append, List.mem_singleton, not_or] at hwait
    rw [hshape, if_neg hwait.2] at hj
    exact h.shaped j s hj hwait.1
  · rw [waiting_enqueue h.place, List.mem_append, List.mem_singleton, not_or] at hwait
    rw [hshape, if_neg hwait.2] at hj
    exact hsome x (h.closed j hj hwait.1 x hx)
  · rcases hpending j hj with hj | rfl
    · exact ⟨hsome j (h.pending j hj).1, (h.pending j hj).2⟩
    · exact ⟨by rw [hshape, if_pos rfl]; rfl, hcollection⟩
  · -- a node that has no shape yet cannot wait already
    have hnew : i ∉ w.pending.toList := fun hmem => by
      have := (h.pending i hmem).1
      rw [hnone] at this
      cases this
    rw [Walk.enqueue, Array.toList_push]
    exact List.nodup_append.mpr ⟨h.nodup, List.nodup_singleton i, by
      rintro x hx y hy rfl
      exact hnew (List.mem_singleton.mp hy ▸ hx)⟩

theorem extends_enqueue (hi : i < w.shapes.size) (hnone : w.shape i = none) :
    w.Extends (w.enqueue i) :=
  ⟨(extends_setShape hi hnone).shapes, [i], by simp [enqueue]⟩

theorem meet_eq : w.meet i =
    if (w.shape i).isSome then .ok w
    else if (w.graph.node i).tag.isCollection then .ok (w.enqueue i)
    else leafOf w.graph i >>= fun d => .ok (w.setShape i (.leaf d)) :=
  rfl

/-- A node that represents a document can be met. -/
theorem Sound.meet {d : Document} (h : Sound g w k) (hd : Represents g i d) :
    ∃ w', w.meet i = .ok w' ∧ Sound g w' k ∧ w.Extends w' ∧ (w'.shape i).isSome := by
  rw [meet_eq]
  by_cases hmet : (w.shape i).isSome
  · exact ⟨w, by rw [if_pos hmet], h, Extends.refl w, hmet⟩
  have hnone : w.shape i = none := by simpa using hmet
  have hi : i < w.shapes.size := h.size ▸ hd.lt_size
  rw [if_neg hmet, h.graph]
  by_cases hcollection : (g.node i).tag.isCollection = true
  · rw [if_pos hcollection]
    refine ⟨w.enqueue i, rfl, h.enqueue hd hnone hcollection, extends_enqueue hi hnone, ?_⟩
    have hshape : (w.enqueue i).shape i = if i = i then some (.list []) else w.shape i :=
      shape_setShape _ hi
    rw [hshape, if_pos rfl]
    rfl
  · rw [if_neg hcollection]
    cases hd with
    | leaf content value =>
      obtain ⟨hshape, hbelow⟩ := shapeOf_scalar content value
      refine ⟨w.setShape i (.leaf d), ?_, h.meetLeaf (.leaf content value) hshape hbelow,
        extends_setShape hi hnone, ?_⟩
      · rw [leafOf_eq content value]
        rfl
      · rw [shape_setShape _ hi, if_pos rfl]
        rfl
    | list node items => simp [node, Tag.isCollection] at hcollection
    | mapping node entries => simp [node, Tag.isCollection] at hcollection

theorem Sound.meetAll : ∀ {js : List Nat} {w : Walk}, Sound g w k →
    (∀ j ∈ js, ∃ d, Represents g j d) →
    ∃ w', w.meetAll js = .ok w' ∧ Sound g w' k ∧ w.Extends w' ∧ ∀ j ∈ js, (w'.shape j).isSome
  | [], w, h, _ => ⟨w, rfl, h, Extends.refl w, by simp⟩
  | j :: js, w, h, hjs => by
    obtain ⟨d, hd⟩ := hjs j List.mem_cons_self
    obtain ⟨w₁, hmeet, hsound₁, hextends₁, hsome⟩ := h.meet hd
    obtain ⟨w₂, hall, hsound₂, hextends₂, hsome₂⟩ :=
      hsound₁.meetAll fun x hx => hjs x (List.mem_cons_of_mem _ hx)
    refine ⟨w₂, ?_, hsound₂, hextends₁.trans hextends₂, fun x hx => ?_⟩
    · rw [Walk.meetAll, List.foldlM_cons, hmeet]
      exact hall
    · rcases List.mem_cons.mp hx with rfl | hx
      · exact hextends₂.isSome hsome
      · exact hsome₂ x hx

theorem meetEntries_cons {w w₁ w₂ w₃ : Walk} {key j : Nat} {s : String} {kvs : List (Nat × Nat)}
    {more : List (String × Nat)} (hkey : w.meet key = .ok w₁)
    (hshape : w₁.shapes.getD key none = some (.leaf (.text s))) (hvalue : w₁.meet j = .ok w₂)
    (hmore : w₂.meetEntries kvs = .ok (more, w₃)) :
    w.meetEntries ((key, j) :: kvs) = .ok ((s, j) :: more, w₃) := by
  rw [Walk.meetEntries, hkey]
  dsimp only [bind, Except.bind]
  rw [hshape]
  dsimp only
  rw [hvalue]
  dsimp only
  rw [hmore]

theorem Sound.meetEntries : ∀ {kvs : List (Nat × Nat)} {es : List (String × Document)} {w : Walk},
    Sound g w k → RepresentsEntries g i kvs es →
    ∃ w', w.meetEntries kvs = .ok (kvs.map fun (k, j) => (g.textOf k, j), w') ∧ Sound g w' k ∧
      w.Extends w' ∧ ∀ j ∈ kvs.flatMap fun (k, j) => [k, j], (w'.shape j).isSome
  | _, _, w, h, .nil => ⟨w, rfl, h, Extends.refl w, by simp⟩
  | (key, j) :: kvs, (s, d) :: es, w, h, .cons name nameAfter after first more => by
    have hcontent : (g.node key).content = .scalar s := by rw [name]
    have hvalue : scalarValue (g.node key) s = .ok (.text s) := by rw [name, scalarValue]
    obtain ⟨w₁, hmeet₁, hsound₁, hextends₁, hsome₁⟩ := h.meet (.leaf hcontent hvalue)
    obtain ⟨w₂, hmeet₂, hsound₂, hextends₂, hsome₂⟩ := hsound₁.meet first
    obtain ⟨w₃, hmeet₃, hsound₃, hextends₃, hsome₃⟩ := hsound₂.meetEntries more
    -- a name never waits, since only collections do
    have hready : key ∉ w₁.waiting k := fun hmem => by
      have := (hsound₁.pending key (List.mem_of_mem_drop hmem)).2
      rw [name] at this
      cases this
    have hshape : w₁.shapes.getD key none = some (.leaf (.text s)) := by
      obtain ⟨t, ht⟩ := Option.isSome_iff_exists.mp hsome₁
      rw [hsound₁.shaped key t ht hready, (shapeOf_scalar hcontent hvalue).1] at ht
      exact ht
    have htext : g.textOf key = s := by rw [Graph.textOf, hcontent]
    refine ⟨w₃, ?_, hsound₃, hextends₁.trans (hextends₂.trans hextends₃), fun x hx => ?_⟩
    · rw [meetEntries_cons hmeet₁ hshape hmeet₂ hmeet₃, List.map_cons]
      dsimp only
      rw [htext]
    · rw [List.flatMap_cons, List.mem_append] at hx
      rcases hx with hx | hx
      · simp only [List.mem_cons, List.not_mem_nil, or_false] at hx
        rcases hx with rfl | rfl
        · exact (hextends₂.trans hextends₃).isSome hsome₁
        · exact hextends₃.isSome hsome₂
      · exact hsome₃ x hx

/-! ### Opening collections -/

theorem waiting_eq_cons (h : w.pending[k]? = some i) : w.waiting k = i :: w.waiting (k + 1) := by
  rw [← Array.getElem?_toList] at h
  obtain ⟨hlt, hi⟩ := List.getElem?_eq_some_iff.mp h
  rw [waiting, List.drop_eq_getElem_cons hlt, hi]
  rfl

/-- The collection that waits first gets its shape when all nodes below it are met. -/
theorem Sound.opened (h : Sound g w k) (hfirst : w.pending[k]? = some i)
    (hbelow : ∀ j ∈ g.below i, (w.shape j).isSome) : Sound g (w.setShape i (g.shapeOf i)) (k + 1) := by
  have hmem : i ∈ w.pending.toList := Array.mem_toList_iff.mpr (Array.mem_of_getElem? hfirst)
  obtain ⟨d, hd⟩ := h.represents i (h.pending i hmem).1
  have hi : i < w.shapes.size := h.size ▸ hd.lt_size
  have hwaiting : ∀ j, j ≠ i → j ∉ w.waiting (k + 1) → j ∉ w.waiting k := by
    intro j hne hj
    rw [waiting_eq_cons hfirst, List.mem_cons, not_or]
    exact ⟨hne, hj⟩
  refine ⟨h.graph, by simp [setShape, h.size], ?_, fun j hj => ?_, fun j s hj hwait => ?_,
    fun j hj hwait x hx => ?_, fun j hj => ?_, h.nodup⟩
  · obtain ⟨hlt, -⟩ := Array.getElem?_eq_some_iff.mp hfirst
    exact hlt
  · rw [shape_setShape _ hi] at hj
    split_ifs at hj with heq
    · exact heq ▸ ⟨d, hd⟩
    · exact h.represents j hj
  · rw [shape_setShape _ hi] at hj
    split_ifs at hj with heq
    · rw [heq, ← Option.some.inj hj]
    · exact h.shaped j s hj (hwaiting j heq hwait)
  · refine isSome_setShape hi ?_
    rw [shape_setShape _ hi] at hj
    split_ifs at hj with heq
    · exact hbelow x (heq ▸ hx)
    · exact h.closed j hj (hwaiting j heq hwait) x hx
  · exact ⟨isSome_setShape hi (h.pending j hj).1, (h.pending j hj).2⟩

theorem Extends.getElem?_pending {w' : Walk} (h : w.Extends w') (hfirst : w.pending[k]? = some i) :
    w'.pending[k]? = some i := by
  obtain ⟨more, hmore⟩ := h.pending
  rw [← Array.getElem?_toList] at hfirst ⊢
  obtain ⟨hlt, -⟩ := List.getElem?_eq_some_iff.mp hfirst
  rw [hmore, List.getElem?_append_left hlt, hfirst]

/-- One step of the walk. -/
theorem Sound.expand (h : Sound g w k) (hfirst : w.pending[k]? = some i) :
    ∃ w', w.expand i = .ok w' ∧ Sound g w' (k + 1) ∧ ∀ j, (w.shape j).isSome → (w'.shape j).isSome := by
  have hmem : i ∈ w.pending.toList := Array.mem_toList_iff.mpr (Array.mem_of_getElem? hfirst)
  obtain ⟨hsome, hcollection⟩ := h.pending i hmem
  obtain ⟨d, hd⟩ := h.represents i hsome
  have hi : ∀ {w' : Walk}, Sound g w' k → i < w'.shapes.size := fun hw => hw.size ▸ hd.lt_size
  unfold Walk.expand
  rw [h.graph]
  cases hd with
  | leaf content value =>
    rw [isCollection_of_scalarValue value] at hcollection
    cases hcollection
  | list node items =>
    obtain ⟨w₁, hmeet, hsound, hextends, hall⟩ := h.meetAll fun j hj => (items.after j hj).2
    obtain ⟨hshape, hbelow⟩ := shapeOf_list node
    refine ⟨w₁.setShape i (g.shapeOf i), ?_, ?_, fun j hj => ?_⟩
    · rw [node]
      dsimp only
      rw [hmeet, hshape]
      rfl
    · exact hsound.opened (hextends.getElem?_pending hfirst) (hbelow ▸ hall)
    · exact isSome_setShape (hi hsound) (hextends.isSome hj)
  | mapping node entries =>
    obtain ⟨w₁, hmeet, hsound, hextends, hall⟩ := h.meetEntries entries
    obtain ⟨hshape, hbelow⟩ := shapeOf_mapping node
    have hflat := flatten_eq node (fun p hp => by
      obtain ⟨⟨s, hs⟩, -⟩ := entries.after p hp
      rw [hs]) w.mergeFuel
    have hsame : { w with graph := g } = w := by rw [← h.graph]
    refine ⟨w₁.setShape i (g.shapeOf i), ?_, ?_, fun j hj => ?_⟩
    · rw [node]
      dsimp only
      rw [hflat]
      change (entriesOf g i >>= _) = _
      rw [entriesOf, node]
      change (({ w with graph := g }.meetEntries _) >>= _) = _
      rw [hsame, hmeet, hshape]
      rfl
    · exact hsound.opened (hextends.getElem?_pending hfirst) (hbelow ▸ hall)
    · exact isSome_setShape (hi hsound) (hextends.isSome hj)

theorem lt_size_of_isSome (h : (w.shape i).isSome) : i < w.shapes.size := by
  by_contra hlt
  rw [shape, Array.getD_eq_getD_getElem?, Array.getElem?_eq_none (Nat.le_of_not_lt hlt)] at h
  cases h

/-- No collection waits twice, so there is an end to them. -/
theorem Sound.size_pending_le (h : Sound g w k) : w.pending.size ≤ g.size := by
  have hsub : w.pending.toList ⊆ List.range g.size := by
    intro i hi
    have hlt := lt_size_of_isSome (h.pending i hi).1
    rw [h.size] at hlt
    exact List.mem_range.mpr hlt
  have hle := (h.nodup.subperm hsub).length_le
  rwa [List.length_range, Array.length_toList] at hle

theorem Sound.run : ∀ {fuel k : Nat} {w : Walk}, Sound g w k → g.size < fuel + k →
    ∃ w', w.run fuel k = .ok w' ∧ Sound g w' w'.pending.size ∧
      ∀ j, (w.shape j).isSome → (w'.shape j).isSome
  | 0, k, w, h, hfuel => by
    have hle := h.size_pending_le
    have hplace := h.place
    omega
  | fuel + 1, k, w, h, hfuel => by
    cases hfirst : w.pending[k]? with
    | none =>
      have hend : w.pending.size = k :=
        le_antisymm (Array.getElem?_eq_none_iff.mp hfirst) h.place
      refine ⟨w, ?_, hend.symm ▸ h, fun _ hj => hj⟩
      rw [Walk.run, hfirst]
    | some i =>
      obtain ⟨w₁, hexpand, hsound₁, hsome₁⟩ := h.expand hfirst
      obtain ⟨w₂, hrun, hsound₂, hsome₂⟩ := hsound₁.run (by omega : g.size < fuel + (k + 1))
      refine ⟨w₂, ?_, hsound₂, fun j hj => hsome₂ j (hsome₁ j hj)⟩
      rw [Walk.run, hfirst]
      dsimp only
      rw [hexpand]
      exact hrun

theorem sound_start (g : Graph) : Sound g (Walk.start g) 0 := by
  have hshape : ∀ i, (Walk.start g).shape i = none := by
    intro i
    unfold shape Walk.start
    rw [Array.getD_eq_getD_getElem?, Array.getElem?_replicate]
    split_ifs <;> rfl
  refine ⟨rfl, by simp [Walk.start], Nat.zero_le _, fun i hi => ?_, fun i s hi _ => ?_,
    fun i hi _ => ?_, by simp [Walk.start], by simp [Walk.start]⟩
  · rw [hshape] at hi
    cases hi
  · rw [hshape] at hi
    cases hi
  · rw [hshape] at hi
    cases hi

end Walk

end Walk

/-- The shapes of all nodes below the root. -/
theorem shapes_eq {g : Graph} {root : Nat} {d : Document} (h : Represents g root d) :
    ∃ sh : Array (Option Shape), shapes g root = .ok sh ∧ sh.size = g.size ∧ (sh.getD root none).isSome ∧
      ∀ i s, sh.getD i none = some s → s = g.shapeOf i ∧ ∀ j ∈ g.below i, (sh.getD j none).isSome := by
  obtain ⟨w₁, hmeet, hsound₁, -, hroot⟩ := (Walk.sound_start g).meet h
  obtain ⟨w₂, hrun, hsound₂, hsome⟩ := hsound₁.run (by omega : g.size < g.size + 1 + 0)
  have hnone : ∀ i, i ∉ w₂.waiting w₂.pending.size := by
    intro i
    rw [Walk.waiting, List.drop_of_length_le (by simp)]
    simp
  refine ⟨w₂.shapes, ?_, hsound₂.size, hsome root hroot, fun i s hs => ⟨?_, ?_⟩⟩
  · unfold shapes
    rw [hmeet]
    change ((w₁.run (g.size + 1) 0) >>= _) = _
    rw [hrun]
    rfl
  · exact hsound₂.shaped i s hs (hnone i)
  · refine hsound₂.closed i ?_ (hnone i)
    rw [Walk.shape, hs]
    rfl

/-! ### Passes -/

/-- The nodes that a shape refers to. -/
def Shape.refs : Shape → List Nat
  | .leaf _ => []
  | .list items => items
  | .mapping entries => entries.map (·.2)

theorem Shape.document_congr {s : Shape} {a b : Array Document}
    (h : ∀ j ∈ s.refs, a.getD j .null = b.getD j .null) : s.document a = s.document b := by
  cases s with
  | leaf d => rfl
  | list items => exact congrArg Document.list (List.map_congr_left h)
  | mapping entries =>
    refine congrArg Document.mapping (List.map_congr_left fun p hp => ?_)
    obtain ⟨key, j⟩ := p
    exact congrArg (Prod.mk key) (h j (List.mem_map.mpr ⟨_, hp, rfl⟩))

section Passes

variable {sh : Array (Option Shape)}

theorem getD_setIfInBounds {known : Array Document} {i j : Nat} {d : Document} (h : i ≠ j) :
    (known.setIfInBounds i d).getD j .null = known.getD j .null := by
  rw [Array.getD_eq_getD_getElem?, Array.getElem?_setIfInBounds_ne h, ← Array.getD_eq_getD_getElem?]

theorem size_pass : ∀ (n : Nat) (known : Array Document), (pass sh n known).size = known.size
  | 0, _ => rfl
  | n + 1, known => by
    rw [pass]
    split
    · exact size_pass n known
    · rw [size_pass n, Array.size_setIfInBounds]

/-- A pass goes down and leaves behind what it has done. -/
theorem getD_pass_of_le : ∀ {n j : Nat} (known : Array Document), n ≤ j →
    (pass sh n known).getD j .null = known.getD j .null
  | 0, _, _, _ => rfl
  | n + 1, j, known, h => by
    rw [pass]
    split
    · exact getD_pass_of_le known (by omega)
    · rw [getD_pass_of_le _ (by omega : n ≤ j), getD_setIfInBounds (by omega)]

/-- After a pass, the document of a node is made of those of the nodes that it refers to. -/
theorem pass_fixed : ∀ {n i : Nat} {s : Shape} (known : Array Document), i < n → i < known.size →
    sh.getD i none = some s → (∀ j ∈ s.refs, i < j) →
    (pass sh n known).getD i .null = s.document (pass sh n known)
  | n + 1, i, s, known, hn, hi, hs, hrefs => by
    by_cases heq : i = n
    · have hset : (known.setIfInBounds i (s.document known)).getD i .null = s.document known := by
        rw [Array.getD_eq_getD_getElem?, Array.getElem?_setIfInBounds_self_of_lt hi]
        rfl
      have hpass : pass sh (n + 1) known = pass sh n (known.setIfInBounds i (s.document known)) := by
        rw [pass, ← heq, hs]
      rw [hpass, getD_pass_of_le _ (le_of_eq heq.symm), hset]
      -- what the node refers to was done before it and is not touched again
      refine Shape.document_congr fun j hj => ?_
      have hlt := hrefs j hj
      rw [getD_pass_of_le _ (by omega), getD_setIfInBounds (by omega)]
    · rw [pass]
      split
      · exact pass_fixed known (by omega) hi hs hrefs
      · exact pass_fixed _ (by omega) (by rwa [Array.size_setIfInBounds]) hs hrefs

theorem passes_eq_pass : ∀ (n : Nat) (known : Array Document),
    ∃ last : Array Document, last.size = known.size ∧ passes sh (n + 1) known = pass sh sh.size last
  | 0, known => ⟨known, rfl, rfl⟩
  | n + 1, known => by
    obtain ⟨last, hsize, heq⟩ := passes_eq_pass n (pass sh sh.size known)
    exact ⟨last, by rw [hsize, size_pass], heq⟩

end Passes

/-- Documents that agree with the shapes of the nodes below the root. -/
structure Settled (g : Graph) (known : Array Document) (met : Nat → Prop) : Prop where
  fixed : ∀ i, met i → (∀ j ∈ (g.shapeOf i).refs, i < j) → known.getD i .null = (g.shapeOf i).document known
  below : ∀ i, met i → ∀ j ∈ g.below i, met j

mutual

theorem Settled.document {g : Graph} {known : Array Document} {met : Nat → Prop}
    (h : Settled g known met) : ∀ {i : Nat} {d : Document}, met i → Represents g i d →
      known.getD i .null = d
  | i, d, hi, .leaf content value => by
    obtain ⟨hshape, -⟩ := shapeOf_scalar content value
    rw [h.fixed i hi (by rw [hshape]; simp [Shape.refs]), hshape]
    rfl
  | i, _, hi, .list node items => by
    obtain ⟨hshape, hbelow⟩ := shapeOf_list node
    have hrefs : ∀ j ∈ (g.shapeOf i).refs, i < j := by
      rw [hshape]
      exact fun j hj => (items.after j hj).1
    rw [h.fixed i hi hrefs, hshape]
    have hitems := h.documents (fun j hj => h.below i hi j (hbelow ▸ hj)) items
    exact congrArg Document.list hitems
  | i, _, hi, .mapping node entries => by
    obtain ⟨hshape, hbelow⟩ := shapeOf_mapping node
    have hrefs : ∀ j ∈ (g.shapeOf i).refs, i < j := by
      rw [hshape]
      intro j hj
      simp only [Shape.refs, List.map_map, List.mem_map] at hj
      obtain ⟨p, hp, rfl⟩ := hj
      exact (entries.after p hp).2.1
    rw [h.fixed i hi hrefs, hshape]
    have hentries := h.entries (fun j hj => h.below i hi j (hbelow ▸ hj)) entries
    exact congrArg Document.mapping hentries

theorem Settled.documents {g : Graph} {known : Array Document} {met : Nat → Prop}
    (h : Settled g known met) : ∀ {i : Nat} {js : List Nat} {ds : List Document}, (∀ j ∈ js, met j) →
      RepresentsItems g i js ds → (js.map fun j => known.getD j .null) = ds
  | _, _, _, _, .nil => rfl
  | _, _, _, hmet, .cons after first more => by
    rw [List.map_cons, h.document (hmet _ List.mem_cons_self) first,
      h.documents (fun j hj => hmet j (List.mem_cons_of_mem _ hj)) more]

theorem Settled.entries {g : Graph} {known : Array Document} {met : Nat → Prop}
    (h : Settled g known met) : ∀ {i : Nat} {kvs : List (Nat × Nat)} {es : List (String × Document)},
      (∀ j ∈ kvs.flatMap fun (k, j) => [k, j], met j) → RepresentsEntries g i kvs es →
      ((kvs.map fun (k, j) => (g.textOf k, j)).map fun (s, j) => (s, known.getD j .null)) = es
  | _, _, _, _, .nil => rfl
  | _, (k, j) :: kvs, (s, d) :: es, hmet, .cons name nameAfter after first more => by
    have htext : g.textOf k = s := by rw [Graph.textOf, name]
    rw [List.flatMap_cons] at hmet
    have hj : met j := hmet j (List.mem_append_left _ (by simp))
    rw [List.map_cons, List.map_cons,
      h.entries (fun x hx => hmet x (List.mem_append_right _ hx)) more]
    dsimp only
    rw [htext, h.document hj first]

end

/-- The document of a graph that represents one. -/
theorem document_eq {g : Graph} {root : Nat} {d : Document} (h : Represents g root d) :
    ∃ sh : Array (Option Shape), shapes g root = .ok sh ∧ ∀ (n : Nat) (start : Array Document),
      start.size = sh.size → (passes sh (n + 1) start).getD root .null = d := by
  obtain ⟨sh, hshapes, hsize, hroot, hmet⟩ := shapes_eq h
  refine ⟨sh, hshapes, fun n start hstart => ?_⟩
  obtain ⟨last, hlast, hpasses⟩ := passes_eq_pass n start
  have hsettled : Settled g (pass sh sh.size last) fun i => (sh.getD i none).isSome := by
    refine ⟨fun i hi hrefs => ?_, fun i hi => ?_⟩
    · obtain ⟨s, hs⟩ := Option.isSome_iff_exists.mp hi
      obtain ⟨rfl, -⟩ := hmet i s hs
      have hlt : i < sh.size := by
        by_contra hlt
        rw [Array.getD_eq_getD_getElem?, Array.getElem?_eq_none (Nat.le_of_not_lt hlt)] at hi
        cases hi
      exact pass_fixed last hlt (by rwa [hlast, hstart]) hs hrefs
    · obtain ⟨s, hs⟩ := Option.isSome_iff_exists.mp hi
      exact (hmet i s hs).2
  rw [hpasses]
  exact hsettled.document hroot h

/-- **A portable JSON text, read as YAML, has the value that it has as JSON.** -/
theorem load_portable {t : Json.Source} (h : t.isPortable) (htab : t.isTabbed = false) :
    load (String.ofList (unifyLineEnds t.chars)) = .ok t.value := by
  obtain ⟨g, hgraph, haliases, hroot⟩ := ofText_textWith h htab
  obtain ⟨sh, hshapes, hdocument⟩ := document_eq hroot
  unfold load
  rw [String.toList_ofList, Json.unifyLineEnds_chars, hgraph]
  change (shapes g 0 >>= _) = _
  rw [hshapes, haliases]
  change Except.ok ((passes sh (5 + 1) _).getD 0 .null) = _
  rw [hdocument 5 _ (by simp)]

end PatternLint.Yaml
