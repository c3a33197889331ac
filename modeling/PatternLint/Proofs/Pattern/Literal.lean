import PatternLint.Proofs.Pattern.Scan
import PatternLint.Proofs.RuleSet.Fields

/-!
# Literal rules

Escaping puts a backslash before every character that means something in a pattern, so that each character of
a text is one token that stands for itself (`ofChars_escapeChars`, `step_ofLiteral`).  Hence an
escaped text is read as the sequence of its characters, whatever they are (`compile_escape`).

Where case matters that sequence matches exactly at the places where the text occurs (`matchAt_literal`), and
the scan for it is the scan for the text itself (`naiveScan`).
-/

namespace PatternLint

open PatternLint.Text

namespace Pattern

/-! ### Tokens of an escaped text -/

/-- The token of one character of an escaped text. -/
def Token.ofLiteral (c : Char) : Token := if isSpecial c then .escaped c else .plain c

theorem ne_of_isSpecial {c d : Char} (hd : isSpecial d = true) (hc : ¬ isSpecial c = true) : c ≠ d := by
  rintro rfl
  exact hc hd

theorem ofChars_escapeChars (s : List Char) :
    Token.ofChars (escapeChars s) = s.map Token.ofLiteral := by
  induction s with
  | nil => rfl
  | cons c s ih =>
    have hcons : escapeChars (c :: s) =
        (if isSpecial c then ['\\', c] else [c]) ++ escapeChars s := rfl
    rw [hcons, List.map_cons, Token.ofLiteral, ← ih]
    by_cases hc : isSpecial c = true
    · rw [if_pos hc, if_pos hc]
      rfl
    · -- a backslash is escaped itself, so this character starts no escape
      have hne : c ≠ '\\' := ne_of_isSpecial (by decide) hc
      rw [if_neg hc, if_neg hc, List.singleton_append, Token.ofChars]
      · exact fun h => absurd h hne
      · exact fun d rest h => absurd h hne

theorem at?_literal (s : List Char) (pos : Nat) :
    Reader.at? (s.map Token.ofLiteral) pos = .ok ⟨s.map Token.ofLiteral, pos⟩ := by
  cases s with
  | nil => rfl
  | cons c s =>
    rw [List.map_cons, Token.ofLiteral]
    split_ifs <;> rfl

/-! ### One step -/

/-- The characters that are escaped stand for themselves behind a backslash. -/
theorem escapes_special : ∀ c ∈ "()[]\x7b\x7d?*+-|^$\\.&~# \t\n\r\x0b\x0c".toList,
    anchorEscape? c = none ∧ categoryEscape? c = none ∧
      (controlEscape? c = none ∨ controlEscape? c = some c.toNat) ∧
      isAsciiLetter c.toNat = false ∧ isDecimalDigit c = false := by
  decide

theorem codeEscape?_eq_none {c : Char} (r : Reader) (h : isAsciiLetter c.toNat = false) :
    codeEscape? c r = none := by
  unfold codeEscape?
  split
  · exact absurd h (by decide)
  · exact absurd h (by decide)
  · exact absurd h (by decide)
  · exact absurd h (by decide)
  · rfl

theorem readEscape_special {c : Char} (hc : isSpecial c = true) (s : State) (r : Reader) :
    readEscape s c r = .ok ({ s with reader := r }.pushCode c.toNat) := by
  obtain ⟨hanchor, hcategory, hcontrol, hletter, hdigit⟩ :=
    escapes_special c (List.contains_iff_mem.mp hc)
  unfold readEscape
  rw [hanchor, hcategory]
  dsimp only
  rcases hcontrol with hcontrol | hcontrol
  · have hzero : (c == '0') = false := by
      rw [beq_eq_false_iff_ne]
      rintro rfl
      exact absurd hdigit (by decide)
    rw [hcontrol, codeEscape?_eq_none r hletter]
    simp [hzero, hdigit, plainEscape, hletter, Except.map]
  · rw [hcontrol]

/-- Each token of an escaped text stands for its character. -/
theorem step_ofLiteral {s : State} (hverbose : s.frame.verbose = false) (c : Char) (r : Reader) :
    step s (Token.ofLiteral c) r = .ok ({ s with reader := r }.pushCode c.toNat) := by
  unfold Token.ofLiteral
  by_cases hc : isSpecial c = true
  · rw [if_pos hc]
    exact readEscape_special hc s r
  · rw [if_neg hc]
    have hne : ∀ d, isSpecial d = true → (c == d) = false :=
      fun d hd => beq_eq_false_iff_ne.mpr (ne_of_isSpecial hd hc)
    simp [step, hverbose, hne '|' (by decide), hne ')' (by decide), hne '[' (by decide),
      hne '?' (by decide), hne '*' (by decide), hne '+' (by decide), hne '\x7b' (by decide),
      hne '.' (by decide), hne '(' (by decide), hne '^' (by decide), hne '$' (by decide)]

/-! ### The walk -/

/-- The node of one character. -/
def literalNode (c : Char) : Node := .char (.literal c.toNat)

/-- The state of the walk through an escaped text: `done` is read and `rest` is left. -/
def literalState (flags : List Flag) (done rest : List Char) (pos : Nat) : State where
  reader := ⟨rest.map Token.ofLiteral, pos⟩
  frame := ⟨.whole, 0, false, [], (done.map fun c => Piece.node (literalNode c)).reverse⟩
  outer := []
  groups := Groups.initial
  flags := flags

section Walk

variable (flags : List Flag)

theorem sees_ofLiteral {c d : Char} (hd : isSpecial d = true) (rest : List Token) (pos : Nat) :
    (⟨Token.ofLiteral c :: rest, pos⟩ : Reader).sees d = false := by
  have hne : Token.ofLiteral c ≠ .plain d := by
    unfold Token.ofLiteral
    split_ifs with hc
    · simp
    · simpa using ne_of_isSpecial hd hc
  simpa [Reader.sees] using hne

/-- One step of the walk reads one character. -/
theorem walk_literalState_cons (fuel : Nat) (done rest : List Char) (c : Char) (pos : Nat) :
    ∃ pos', walk (fuel + 1) (literalState flags done (c :: rest) pos) =
      walk fuel (literalState flags (done ++ [c]) rest pos') := by
  have hstop : (literalState flags done (c :: rest) pos).atStop = false := by
    simp [State.atStop, literalState, sees_ofLiteral (show isSpecial ')' = true by decide)]
  have hbranch : (literalState flags done (c :: rest) pos).atThirdBranch = false := by
    simp [State.atThirdBranch, literalState]
  refine ⟨pos + (Token.ofLiteral c).length, ?_⟩
  have hstep := step_ofLiteral (s := literalState flags done (c :: rest) pos) rfl c
    ⟨rest.map Token.ofLiteral, pos + (Token.ofLiteral c).length⟩
  have hpushed : { literalState flags done (c :: rest) pos with
        reader := ⟨rest.map Token.ofLiteral, pos + (Token.ofLiteral c).length⟩ }.pushCode c.toNat =
      literalState flags (done ++ [c]) rest (pos + (Token.ofLiteral c).length) := by
    simp [State.pushCode, State.pushNode, State.push, literalState, literalNode]
  rw [hpushed] at hstep
  have hread : (literalState flags done (c :: rest) pos).reader.rest =
      Token.ofLiteral c :: rest.map Token.ofLiteral := rfl
  have hpos : (literalState flags done (c :: rest) pos).reader.pos = pos := rfl
  rw [walk, hread]
  simp only [hstop, hbranch, Bool.false_eq_true, if_false, hpos, at?_literal]
  exact congrArg (· >>= walk fuel) hstep

/-- The walk reads an escaped text to its end. -/
theorem walk_literalState (done rest : List Char) (pos : Nat) :
    ∃ pos', walk rest.length (literalState flags done rest pos) =
      .ok (literalState flags (done ++ rest) [] pos') := by
  induction rest generalizing done pos with
  | nil => exact ⟨pos, by rw [List.append_nil]; rfl⟩
  | cons c rest ih =>
    obtain ⟨pos₁, hstep⟩ := walk_literalState_cons flags rest.length done rest c pos
    obtain ⟨pos₂, hrest⟩ := ih (done ++ [c]) pos₁
    refine ⟨pos₂, ?_⟩
    rw [List.length_cons, hstep, hrest, List.append_assoc, List.singleton_append]

end Walk

/-! ### The pattern of a text -/

/-- The pattern for exactly one text. -/
def literal (s : List Char) (ignoreCase : Bool) : Pattern where
  node := Node.seqOf (s.map literalNode)
  mode := Mode.ofFlags (initialFlags ignoreCase)

theorem finish_literalState (ignoreCase : Bool) (s : List Char) (pos : Nat) :
    (literalState (initialFlags ignoreCase) s [] pos).finish =
      .ok (Node.seqOf (s.map literalNode), initialFlags ignoreCase) := by
  have hnodes : (literalState (initialFlags ignoreCase) s [] pos).frame.currentNodes =
      s.map literalNode := by
    simp only [literalState, Frame.currentNodes, List.reverse_reverse, List.flatMap_map, Piece.nodes]
    exact List.map_eq_flatMap.symm
  have halphabet : ((initialFlags ignoreCase).contains .ascii &&
      (initialFlags ignoreCase).contains .unicode) = false := by
    cases ignoreCase <;> decide
  unfold State.finish
  rw [hnodes]
  simp only [literalState, halphabet]
  rfl

theorem check_seqOf {template : Bool} {ns : List Node} (h : ∀ n ∈ ns, n.check template = .ok ()) :
    (Node.seqOf ns).check template = .ok () := by
  induction ns with
  | nil => rfl
  | cons n ns ih =>
    have hn := h n List.mem_cons_self
    have hns := ih fun x hx => h x (List.mem_cons_of_mem _ hx)
    cases ns with
    | nil => exact hn
    | cons n' ns =>
      rw [Node.seqOf, Node.check, hn]
      · exact hns
      · simp

theorem read_escape (s : String) (ignoreCase : Bool) :
    read (escape s) (initialFlags ignoreCase) =
      .ok (Node.seqOf (s.toList.map literalNode), initialFlags ignoreCase) := by
  have hstart : Reader.start (escape s) = .ok ⟨s.toList.map Token.ofLiteral, 0⟩ := by
    rw [Reader.start, escape, String.toList_ofList, ofChars_escapeChars, at?_literal]
  have hverbose : (initialFlags ignoreCase).contains .verbose = false := by
    cases ignoreCase <;> decide
  have hinitial : State.initial (initialFlags ignoreCase) ⟨s.toList.map Token.ofLiteral, 0⟩ =
      literalState (initialFlags ignoreCase) [] s.toList 0 := by
    rw [State.initial, hverbose]
    rfl
  obtain ⟨pos, hwalk⟩ := walk_literalState (initialFlags ignoreCase) [] s.toList 0
  rw [← finish_literalState ignoreCase s.toList pos, read, hstart]
  change (walk (s.toList.map Token.ofLiteral).length _ >>= State.finish) = _
  rw [List.length_map, hinitial, hwalk]
  rfl

/-- **An escaped text is read as the sequence of its characters.** -/
theorem compile_escape (s : String) (ignoreCase : Bool) :
    compile (escape s) ignoreCase = .ok (literal s.toList ignoreCase) := by
  have hcheck : (Node.seqOf (s.toList.map literalNode)).check
      ((initialFlags ignoreCase).contains .template) = .ok () := by
    refine check_seqOf fun n hn => ?_
    obtain ⟨c, -, rfl⟩ := List.mem_map.mp hn
    rfl
  rw [compile, read_escape]
  change ((Node.seqOf (s.toList.map literalNode)).check _ >>= _) = _
  rw [hcheck]
  rfl

/-! ### Where the text occurs -/

/-- The text holds `p` from the offset `s` on. -/
def OccursAt (p text : List Char) (s : Nat) : Prop := (text.drop s).take p.length = p

instance (p text : List Char) (s : Nat) : Decidable (OccursAt p text s) :=
  inferInstanceAs (Decidable (_ = _))

theorem occursAt_nil (text : List Char) (s : Nat) : OccursAt [] text s := by
  rw [OccursAt, List.length_nil, List.take_zero]

theorem occursAt_cons {c : Char} {p text : List Char} {s : Nat} :
    OccursAt (c :: p) text s ↔ (text.drop s).head? = some c ∧ OccursAt p text (s + 1) := by
  unfold OccursAt
  rw [← List.drop_drop]
  cases text.drop s with
  | nil => simp
  | cons d rest => simp

section Run

variable {text : Array Char} {m : Mode}

/-- A sequence of characters consumes itself. -/
theorem run_literalNodes (hm : m.ignoreCase = false) (s : List Char) (p : Progress)
    (k : Continuation) :
    (Node.seqOf (s.map literalNode)).run text m p k =
      if OccursAt s text.toList p.pos then k (p.moveTo (p.pos + s.length)) else none := by
  induction s generalizing p with
  | nil =>
    rw [if_pos (occursAt_nil _ _), List.map_nil, Node.seqOf, Node.run]
    rfl
  | cons c s ih =>
    have hhead : codeAt? text p.pos = some c.toNat ↔ (text.toList.drop p.pos).head? = some c := by
      rw [codeAt?_eq]
      cases (text.toList.drop p.pos).head? with
      | none => simp
      | some d => simp [Char.toNat_inj]
    rw [List.map_cons, Node.run_seqOf_cons, literalNode, Node.run_literal hm]
    simp only [ih, occursAt_cons, hhead]
    by_cases hc : (text.toList.drop p.pos).head? = some c
    · have hmoved : (p.moveTo (p.pos + 1)).moveTo (p.pos + 1 + s.length) =
          p.moveTo (p.pos + (c :: s).length) := by
        rw [List.length_cons, Nat.add_assoc, Nat.add_comm 1]
        rfl
      rw [if_pos hc, ← hmoved]
      simp only [hc, true_and]
      rfl
    · rw [if_neg hc, if_neg fun h => hc h.1]

/-- The pattern for a text matches exactly where the text occurs. -/
theorem matchAt_literal (s : List Char) (i : Nat) :
    matchAt text (literal s false) i =
      if OccursAt s text.toList i then some (i + s.length) else none := by
  have hm : (Mode.ofFlags (initialFlags false)).ignoreCase = false := rfl
  unfold matchAt literal
  dsimp only
  rw [run_literalNodes hm, show (Progress.start i).pos = i from rfl]
  split_ifs <;> rfl

end Run

/-! ### The scan for a text -/

/-- The first offset from `pos` on where `p` occurs. -/
def firstFrom? (p text : List Char) (pos : Nat) : Option Nat :=
  (List.range' pos (text.length + 1 - pos)).find? fun s => OccursAt p text s

theorem firstFrom?_eq_none {p text : List Char} {pos : Nat} :
    firstFrom? p text pos = none ↔ ∀ j, pos ≤ j → j ≤ text.length → ¬ OccursAt p text j := by
  rw [firstFrom?, List.find?_range'_eq_none]
  simp only [Bool.not_eq_true', decide_eq_false_iff_not]
  exact ⟨fun h j hj hle => h j hj (by omega), fun h j hj hlt => h j hj (by omega)⟩

theorem firstFrom?_eq_some {p text : List Char} {pos s : Nat} (h : firstFrom? p text pos = some s) :
    OccursAt p text s ∧ pos ≤ s ∧ s ≤ text.length ∧
      ∀ j, pos ≤ j → j < s → ¬ OccursAt p text j := by
  obtain ⟨hs, hmem, hleast⟩ := List.find?_range'_eq_some.mp h
  obtain ⟨hlo, hhi⟩ := List.mem_range'_1.mp hmem
  exact ⟨of_decide_eq_true hs, hlo, by omega, fun j hj hlt => by simpa using hleast j hj hlt⟩

/-- Where the scan for `p` goes on after it was found at `s`. -/
def scanResume (p : List Char) (s : Nat) : Nat := if p = [] then s + 1 else s + p.length

theorem resume_literal (p : List Char) (s : Nat) : resume s (s + p.length) = scanResume p s := by
  unfold resume scanResume
  cases p with
  | nil => simp
  | cons c p => simp

theorem lt_scanResume (p : List Char) (s : Nat) : s < scanResume p s := by
  rw [← resume_literal]
  exact lt_resume (Nat.le_add_right s p.length)

/-- Where a text occurs from an offset on: at the first place, and again behind it or, for the empty text, one
character further. -/
def naiveScan (p text : List Char) (pos : Nat) : List (Nat × Nat) :=
  match _ : firstFrom? p text pos with
  | none => []
  | some s => (s, s + p.length) :: naiveScan p text (scanResume p s)
termination_by text.length + 1 - pos
decreasing_by
  rename_i h
  obtain ⟨-, hlo, hhi, -⟩ := firstFrom?_eq_some h
  have hnext := lt_scanResume p s
  omega

/-- The scan with the pattern for a text is the scan for the text. -/
theorem scans_naiveScan (p : List Char) (text : Array Char) (pos : Nat) :
    Scans text (literal p false) pos (naiveScan p text.toList pos) := by
  fun_induction naiveScan p text.toList pos with
  | case1 pos hnone =>
    by_cases hpos : pos ≤ text.size
    · refine .missed hpos (search_eq_none_iff.mpr fun j hj hsize => ?_)
      rw [matchAt_literal, if_neg (firstFrom?_eq_none.mp hnone j hj hsize)]
    · exact .past (by omega)
  | case2 pos s hsome ih =>
    obtain ⟨hs, hlo, hsize, hleast⟩ := firstFrom?_eq_some hsome
    rw [Array.length_toList] at hsize
    refine .found (by omega) (search_of_least hlo hsize ?_ fun j hj hlt => ?_)
      (resume_literal p s ▸ ih)
    · rw [matchAt_literal, if_pos hs]
    · rw [matchAt_literal, if_neg (hleast j hj hlt)]

theorem map_span_literal (p : List Char) (text : String) :
    (findMatches text (literal p false)).map Match.span = naiveScan p text.toList 0 := by
  rw [map_span_findMatches]
  exact (scans_naiveScan p text.toList.toArray 0).eq_of_lists (scans_spans _ _).lists

theorem text_of_mem_literal {p text : String} {m : Match}
    (h : m ∈ findMatches text (literal p.toList false)) : m.text = p := by
  obtain ⟨-, -, hmatch⟩ := (lists_findMatches text _).matching m.span (List.mem_map_of_mem h)
  obtain ⟨-, -, htext⟩ := mem_findMatches h
  rw [matchAt_literal] at hmatch
  split_ifs at hmatch with hoccurs
  have hstop : m.stop = m.start + p.toList.length := (Option.some.inj hmatch).symm
  have htaken : (text.toList.drop m.start).take p.toList.length = p.toList := hoccurs
  rw [htext, hstop, List.drop_take, Nat.add_sub_cancel_left, htaken, String.ofList_toList]

/-- The empty text occurs at every offset. -/
theorem naiveScan_nil (text : List Char) (pos : Nat) :
    naiveScan [] text pos = (List.range' pos (text.length + 1 - pos)).map fun s => (s, s) := by
  fun_induction naiveScan [] text pos with
  | case1 pos hnone =>
    have hpast : text.length + 1 ≤ pos := by
      by_contra hle
      exact firstFrom?_eq_none.mp hnone pos le_rfl (by omega) (occursAt_nil text pos)
    rw [Nat.sub_eq_zero_of_le hpast]
    rfl
  | case2 pos s hsome ih =>
    obtain ⟨-, hlo, hhi, hleast⟩ := firstFrom?_eq_some hsome
    obtain rfl : s = pos := by
      by_contra hne
      exact hleast pos le_rfl (by omega) (occursAt_nil text pos)
    rw [ih, show text.length + 1 - s = (text.length + 1 - (s + 1)) + 1 by omega, List.range'_succ]
    rfl

end Pattern

/-! ### Literal rules -/

theorem compile_sourceOf_literal (pattern : String) (ignoreCase : Bool) :
    Pattern.compile (Rule.sourceOf pattern true) ignoreCase =
      .ok (Pattern.literal pattern.toList ignoreCase) :=
  Pattern.compile_escape pattern ignoreCase

theorem entryCompiles_literal {m : Field.Entries} {s : String}
    (hs : Document.lookup m "pattern" = some (.text s))
    (hliteral : Document.lookup m "literal" = some (.bool true)) :
    EntryCompiles m
      (.ok (Pattern.literal s.toList (Document.isOn (Document.lookup m "ignore-case")))) := by
  refine ⟨s, hs, ?_⟩
  rw [hliteral]
  exact compile_sourceOf_literal s _

/-- **A literal rule matches its text and nothing else.**  Any text can be the pattern of a literal rule, so
a literal entry with right fields is kept.  Where case matters the matches are those that the scan for
the text finds, and the empty text matches at every offset. -/
theorem literal_rules_match_text :
    (∀ (pattern : String) (ignoreCase : Bool),
      ∃ p, Pattern.compile (Rule.sourceOf pattern true) ignoreCase = .ok p) ∧
    (∀ (fallback : Severity) (i : Nat) (m : Field.Entries),
      (∀ f ∈ entryRules, f.Holds m) → Document.lookup m "literal" = some (.bool true) →
        ∃ rule, readEntry fallback i (.mapping m) = .kept rule) ∧
    (∀ (name pattern : String) (documentation : Option String) (severity : Severity) (scope : Scope),
      ∃ rule, Rule.create name pattern documentation severity scope true false = .ok rule ∧
        ∀ text : String,
          (rule.findMatches text).map Match.span =
            Pattern.naiveScan pattern.toList text.toList 0 ∧
          ∀ found ∈ rule.findMatches text, found.text = pattern) ∧
    ∀ text : List Char,
      Pattern.naiveScan [] text 0 = (List.range (text.length + 1)).map fun s => (s, s) := by
  refine ⟨fun pattern ignoreCase => ⟨_, compile_sourceOf_literal pattern ignoreCase⟩, ?_, ?_, ?_⟩
  · intro fallback i m hfields hliteral
    obtain ⟨s, hs⟩ : FieldRule.pattern.Holds m := hfields _ (by simp [entryRules])
    exact readEntry_kept_iff.mpr ⟨hfields, _, entryCompiles_literal hs hliteral⟩
  · intro name pattern documentation severity scope
    refine ⟨_, by rw [Rule.create, compile_sourceOf_literal]; rfl, fun text => ⟨?_, ?_⟩⟩
    · exact Pattern.map_span_literal pattern.toList text
    · exact fun found hfound => Pattern.text_of_mem_literal hfound
  · intro text
    rw [Pattern.naiveScan_nil, Nat.sub_zero, List.range_eq_range']

-- every character between the brackets would mean something in a pattern, and occurrences do not overlap
example : (Pattern.compile (Rule.sourceOf "[.]" true) false).toOption.map
    (Pattern.spans "[.][.].".toList.toArray) = some [(0, 3), (3, 6)] := by
  decide

end PatternLint
