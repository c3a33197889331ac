import PatternLint.Yaml

/-!
# Texts whose tokens have a fault

The reader asks for tokens one at a time and would not see a fault behind the last token that it needs.
But a document is over only when no token follows it, and to know this the reader has to look behind the
last token.  So a text has no document if its tokens end in a fault (`load_of_fault`): every part of the
reader either fails as a malformed text does or leaves the fault where it is (`Reading.Heeds`).
-/

namespace PatternLint.Yaml

namespace Reading

variable {α β : Type}

/-- What fails, or leaves the fault behind the tokens where it is. -/
def Heeds (m : Reading α) : Prop :=
  ∀ r : Reader, r.fault = some .malformed →
    m.run r = .error .malformed ∨ ∃ a r', m.run r = .ok (a, r') ∧ r'.fault = some .malformed

/-! ### Steps -/

theorem heeds_pure (a : α) : Heeds (pure a) := fun r h => Or.inr ⟨a, r, rfl, h⟩

theorem heeds_fail : Heeds (fail : Reading α) := fun _ _ => Or.inl rfl

theorem Heeds.bind {m : Reading α} {f : α → Reading β} (hm : Heeds m) (hf : ∀ a, Heeds (f a)) :
    Heeds (m >>= f) := by
  intro r h
  rw [StateT.run_bind]
  rcases hm r h with hfail | ⟨a, r', hok, hfault⟩
  · rw [hfail]
    exact Or.inl rfl
  · rw [hok]
    exact hf a r' hfault

theorem Heeds.ite {c : Prop} [Decidable c] {m m' : Reading α} (hm : Heeds m) (hm' : Heeds m') :
    Heeds (if c then m else m') := by
  split
  · exact hm
  · exact hm'

/-- What reads the state, and sees the fault. -/
theorem heeds_get {f : Reader → Reading α} (h : ∀ r, r.fault = some .malformed → Heeds (f r)) :
    Heeds (get >>= f) := fun r hr => h r hr r hr

theorem heeds_set {r : Reader} (h : r.fault = some .malformed) : Heeds (set r : Reading PUnit) :=
  fun _ _ => Or.inr ⟨⟨⟩, r, rfl, h⟩

theorem heeds_modify {f : Reader → Reader} (h : ∀ r, (f r).fault = r.fault) :
    Heeds (modify f : Reading PUnit) := fun r hr => Or.inr ⟨⟨⟩, f r, rfl, (h r).trans hr⟩

theorem heeds_peek : Heeds peek := by
  refine heeds_get fun r hr => ?_
  rw [hr]
  cases r.tokens with
  | nil => exact fun _ _ => Or.inl rfl
  | cons t ts => exact heeds_pure _

theorem heeds_advance : Heeds advance := heeds_modify fun _ => rfl

theorem heeds_accept (t : Token) : Heeds (accept t) :=
  heeds_peek.bind fun _ => (heeds_advance.bind fun _ => heeds_pure _).ite (heeds_pure _)

theorem heeds_expect (t : Token) : Heeds (expect t) :=
  (heeds_accept t).bind fun _ => (heeds_pure _).ite heeds_fail

theorem heeds_isNext (ts : List Token) : Heeds (isNext ts) := by
  refine heeds_peek.bind fun t => ?_
  cases t with
  | none => exact heeds_pure _
  | some t => exact heeds_pure _

/-! ### Nodes -/

theorem heeds_add (n : Node) : Heeds (add n) := by
  refine heeds_get fun r hr => Heeds.bind ?_ fun _ => heeds_pure _
  exact heeds_set hr

theorem heeds_nameNext (anchor : Option String) : Heeds (nameNext anchor) := by
  cases anchor with
  | none => exact heeds_pure _
  | some name => exact heeds_get fun _ hr => heeds_fail.ite (heeds_set hr)

theorem heeds_aliased (name : String) : Heeds (aliased name) := by
  refine heeds_get fun r hr => ?_
  cases r.anchors.lookup name with
  | none => exact heeds_fail
  | some i =>
    refine Heeds.bind ?_ fun _ => heeds_pure _
    exact heeds_set hr

theorem heeds_resolveTag (handle : Option String) (suffix : String) : Heeds (resolveTag handle suffix) := by
  cases handle with
  | none => exact heeds_pure _
  | some h =>
    refine heeds_get fun r _ => ?_
    cases r.handles.lookup h with
    | none => exact heeds_fail
    | some expansion => exact heeds_pure _

theorem heeds_anchor? : Heeds anchor? := by
  refine heeds_peek.bind fun t => ?_
  split
  · exact heeds_advance.bind fun _ => heeds_pure _
  · exact heeds_pure _

theorem heeds_tag? : Heeds tag? := by
  refine heeds_peek.bind fun t => ?_
  split
  · exact heeds_advance.bind fun _ => heeds_pure _
  · exact heeds_pure _

theorem heeds_properties : Heeds properties := by
  refine heeds_anchor?.bind fun before => heeds_tag?.bind fun tag => ?_
  cases tag with
  | none => exact (heeds_anchor?.bind fun _ => heeds_pure _).ite (heeds_pure _)
  | some tag =>
    have hresolved : ∀ anchor, Heeds do
        let name ← resolveTag tag.1 tag.2
        return (⟨anchor, some name⟩ : Properties) := fun _ =>
      (heeds_resolveTag _ _).bind fun _ => heeds_pure _
    exact (heeds_anchor?.bind hresolved).ite (hresolved before)

theorem heeds_scalar (p : Properties) (text : String) (plain : Bool) : Heeds (scalar p text plain) :=
  (heeds_nameNext _).bind fun _ => heeds_add _

theorem heeds_collection {p : Properties} {tag : Tag} {body : Reading Content} (h : Heeds body) :
    Heeds (collection p tag body) := by
  refine (heeds_nameNext _).bind fun _ => (heeds_add _).bind fun _ => h.bind fun _ => ?_
  refine Heeds.bind ?_ fun _ => heeds_pure _
  exact heeds_modify fun _ => rfl

theorem heeds_nodeUnless {ends : List Token} {node : Reading Nat} (h : Heeds node) :
    Heeds (nodeUnless ends node) :=
  (heeds_isNext _).bind fun _ => (heeds_add _).ite h

/-! ### Collections -/

theorem heeds_blockItems {ends : List Token} {block : Reading Nat} (h : Heeds block) :
    ∀ n, Heeds (blockItems ends block n)
  | 0 => heeds_fail
  | n + 1 => (heeds_accept _).bind fun _ =>
    ((heeds_nodeUnless h).bind fun _ => (heeds_blockItems h n).bind fun _ => heeds_pure _).ite
      (heeds_pure _)

theorem heeds_blockSequence {block : Reading Nat} (h : Heeds block) (n : Nat) :
    Heeds (blockSequence block n) :=
  (heeds_blockItems h n).bind fun _ => (heeds_expect _).bind fun _ => heeds_pure _

theorem heeds_flushSequence {block : Reading Nat} (h : Heeds block) (n : Nat) :
    Heeds (flushSequence block n) :=
  (heeds_blockItems h n).bind fun _ => heeds_pure _

theorem heeds_blockEntries {value : Reading Nat} (h : Heeds value) : ∀ n, Heeds (blockEntries value n)
  | 0 => heeds_fail
  | n + 1 => by
    have hmore : ∀ k v, Heeds (do return (k, v) :: (← blockEntries value n)) := fun k v =>
      (heeds_blockEntries h n).bind fun _ => heeds_pure _
    refine (heeds_accept _).bind fun _ => Heeds.ite ?_ (heeds_pure _)
    refine (heeds_nodeUnless h).bind fun k => (heeds_accept _).bind fun _ => ?_
    exact ((heeds_nodeUnless h).bind fun v => hmore k v).ite ((heeds_add _).bind fun v => hmore k v)

theorem heeds_blockMapping {value : Reading Nat} (h : Heeds value) (n : Nat) :
    Heeds (blockMapping value n) :=
  (heeds_blockEntries h n).bind fun _ => (heeds_expect _).bind fun _ => heeds_pure _

theorem heeds_flowValue {close : Token} {flow : Reading Nat} (h : Heeds flow) :
    Heeds (flowValue close flow) :=
  (heeds_accept _).bind fun _ => (heeds_nodeUnless h).ite (heeds_add _)

theorem heeds_flowPair {flow : Reading Nat} (h : Heeds flow) : Heeds (flowPair flow) :=
  heeds_collection (heeds_advance.bind fun _ => (heeds_nodeUnless h).bind fun _ =>
    (heeds_flowValue h).bind fun _ => heeds_pure _)

theorem heeds_flowItems {flow : Reading Nat} (h : Heeds flow) : ∀ n first, Heeds (flowItems flow n first)
  | 0, _ => heeds_fail
  | n + 1, first => by
    have hmore : ∀ item, Heeds (do return item :: (← flowItems flow n false)) := fun item =>
      (heeds_flowItems h n false).bind fun _ => heeds_pure _
    have hitem : Heeds (do
        if ← isNext [.key] then
          let item ← flowPair flow
          return item :: (← flowItems flow n false)
        else if ← accept .flowSequenceEnd then return []
        else
          let item ← flow
          return item :: (← flowItems flow n false)) :=
      (heeds_isNext _).bind fun _ => ((heeds_flowPair h).bind hmore).ite
        ((heeds_accept _).bind fun _ => (heeds_pure _).ite (h.bind hmore))
    refine (heeds_accept _).bind fun _ => (heeds_pure _).ite ?_
    exact ((heeds_expect _).bind fun _ => hitem).ite hitem

theorem heeds_flowEntries {flow : Reading Nat} (h : Heeds flow) :
    ∀ n first, Heeds (flowEntries flow n first)
  | 0, _ => heeds_fail
  | n + 1, first => by
    have hmore : ∀ k v, Heeds (do return (k, v) :: (← flowEntries flow n false)) := fun k v =>
      (heeds_flowEntries h n false).bind fun _ => heeds_pure _
    have hentry : Heeds (do
        if ← accept .key then
          let k ← nodeUnless [.value, .flowEntry, .flowMappingEnd] flow
          let v ← flowValue .flowMappingEnd flow
          return (k, v) :: (← flowEntries flow n false)
        else if ← accept .flowMappingEnd then return []
        else
          let k ← flow
          let v ← emptyScalar
          return (k, v) :: (← flowEntries flow n false)) :=
      (heeds_accept _).bind fun _ => ((heeds_nodeUnless h).bind fun k => (heeds_flowValue h).bind fun v =>
        hmore k v).ite ((heeds_accept _).bind fun _ => (heeds_pure _).ite
          (h.bind fun k => (heeds_add _).bind fun v => hmore k v))
    refine (heeds_accept _).bind fun _ => (heeds_pure _).ite ?_
    exact ((heeds_expect _).bind fun _ => hentry).ite hentry

theorem heeds_node : ∀ n place, Heeds (node n place)
  | 0, _ => heeds_fail
  | n + 1, place => by
    refine heeds_peek.bind fun t => ?_
    split
    · exact heeds_advance.bind fun _ => heeds_aliased _
    refine heeds_properties.bind fun p => heeds_get fun r _ => heeds_peek.bind fun t => ?_
    split
    · exact heeds_advance.bind fun _ => heeds_scalar _ _ _
    · exact heeds_advance.bind fun _ =>
        heeds_collection ((heeds_flowItems (heeds_node n _) _ _).bind fun _ => heeds_pure _)
    · exact heeds_advance.bind fun _ =>
        heeds_collection ((heeds_flowEntries (heeds_node n _) _ _).bind fun _ => heeds_pure _)
    · refine (heeds_collection (heeds_flushSequence (heeds_node n _) _)).ite
        (Heeds.ite ?_ (Heeds.ite ?_ ?_))
      · exact heeds_advance.bind fun _ => heeds_collection (heeds_blockSequence (heeds_node n _) _)
      · exact heeds_advance.bind fun _ => heeds_collection (heeds_blockMapping (heeds_node n _) _)
      · exact (heeds_scalar _ _ _).ite heeds_fail

/-! ### Documents -/

theorem heeds_directives : ∀ n versioned handles, Heeds (directives n versioned handles)
  | 0, _, _ => heeds_pure _
  | n + 1, versioned, handles => by
    refine heeds_peek.bind fun t => ?_
    split
    · refine heeds_advance.bind fun _ => ?_
      split
      · exact heeds_fail.ite (heeds_directives n _ _)
      · exact heeds_fail.ite (heeds_directives n _ _)
      · exact heeds_directives n _ _
    · exact heeds_pure _

theorem heeds_atDocumentEnd : Heeds atDocumentEnd := by
  refine heeds_peek.bind fun t => ?_
  split
  · exact heeds_pure _
  · exact heeds_pure _
  · exact heeds_pure _

theorem heeds_explicitDocument (n : Nat) : Heeds (explicitDocument n) := by
  refine (heeds_directives n _ _).bind fun _ => Heeds.bind ?_ fun _ => (heeds_expect _).bind fun _ =>
    heeds_atDocumentEnd.bind fun _ => (heeds_add _).ite (heeds_node n _)
  exact heeds_modify fun _ => rfl

theorem heeds_skipEnds : ∀ n, Heeds (skipEnds n)
  | 0 => heeds_pure _
  | n + 1 => (heeds_accept _).bind fun _ => (heeds_skipEnds n).ite (heeds_pure _)

/-- What fails in any case. -/
def Refuses (m : Reading α) : Prop :=
  ∀ r : Reader, r.fault = some .malformed → m.run r = .error .malformed

theorem Heeds.refuses {m : Reading α} {f : α → Reading β} (hm : Heeds m) (hf : ∀ a, Refuses (f a)) :
    Refuses (m >>= f) := by
  intro r h
  rw [StateT.run_bind]
  rcases hm r h with hfail | ⟨a, r', hok, hfault⟩
  · rw [hfail]
    rfl
  · rw [hok]
    exact hf a r' hfault

theorem refuses_get {f : Reader → Reading α} (h : ∀ r, Refuses (f r)) : Refuses (get >>= f) :=
  fun r hr => h r r hr

/-- In front of a fault there is a next token, or none is asked for in vain. -/
theorem refuses_peek {f : Option Token → Reading α} (hf : ∀ t, Refuses (f (some t))) :
    Refuses (peek >>= f) := by
  rintro ⟨tokens, fault, graph, anchors, handles⟩ h
  obtain rfl : fault = some .malformed := h
  cases tokens with
  | nil => rfl
  | cons t ts => exact hf t _ rfl

/-- The end of the document is where the fault is found at last. -/
theorem refuses_document : Refuses document := by
  have hend : ∀ bound root, Refuses (do
      skipEnds bound
      if (← peek).isSome then fail else return some root : Reading (Option Nat)) := fun bound root =>
    (heeds_skipEnds bound).refuses fun _ => refuses_peek fun _ _ _ => rfl
  refine refuses_get fun r => refuses_peek fun t => ?_
  have hexplicit := fun bound => (heeds_explicitDocument bound).refuses (hend bound)
  have hnode := fun bound => (heeds_node bound .block).refuses (hend bound)
  dsimp only
  split
  · exact hexplicit _
  · exact hexplicit _
  · exact hnode _

end Reading

/-- A text has no document if its tokens end in a fault. -/
theorem load_of_fault {text : String} (h : (tokens text.toList).fault = some .malformed) :
    load text = .error .malformed := by
  unfold load Graph.ofText
  dsimp only
  rw [Reading.refuses_document _ h]
  rfl

end PatternLint.Yaml
