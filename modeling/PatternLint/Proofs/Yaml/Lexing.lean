import PatternLint.Proofs.Yaml.Scalar
import PatternLint.Yaml.Token.Lexer

/-!
# The lexer on a JSON text

Inside flow collections the lexer knows no indentation, and at the top of a JSON text no block collection
is ever opened; so its margins stay empty and no key is ever required (`Calm`).  What a step finds then
depends only on what lies ahead behind the blanks (`At`).  A name is marked as a key when the colon comes,
which works only if the colon is on the line of the name and not too far away (`lex_key`).

`Leads` says that a lexer reaches another one in some steps.  There is one lemma per token that a JSON text
has; a tab is none, and the lexer stops there (`lex_tab`).
-/

namespace PatternLint.Yaml

open PatternLint.Text

/-! ### Runs of the lexer -/

/-- The lexer `l` goes on as `l'` does. -/
def Leads (l l' : Lexer) : Prop :=
  ∀ n, l.cursor.rest.length < n → ∃ m, l'.cursor.rest.length < m ∧ lexFrom n l = lexFrom m l'

theorem Leads.refl (l : Lexer) : Leads l l := fun n hn => ⟨n, hn, rfl⟩

theorem Leads.trans {a b c : Lexer} (hab : Leads a b) (hbc : Leads b c) : Leads a c := by
  intro n hn
  obtain ⟨m, hm, hab⟩ := hab n hn
  obtain ⟨k, hk, hbc⟩ := hbc m hm
  exact ⟨k, hk, hab.trans hbc⟩

theorem leads_of_step {l l' : Lexer} (h : l.step = .ok (l', false))
    (hlt : l'.cursor.rest.length < l.cursor.rest.length) : Leads l l' := by
  intro n hn
  obtain ⟨n, rfl⟩ : ∃ k, n = k + 1 := Nat.exists_eq_add_one.mpr (by omega)
  refine ⟨n, by omega, ?_⟩
  rw [lexFrom, h]

/-- The lexer ends with a fault. -/
def Faults (l : Lexer) : Prop :=
  ∀ n, l.cursor.rest.length < n → (lexFrom n l).fault = some .malformed

theorem Faults.of_leads {l l' : Lexer} (h : Leads l l') (hfaults : Faults l') : Faults l := by
  intro n hn
  obtain ⟨m, hm, heq⟩ := h n hn
  rw [heq]
  exact hfaults m hm

/-! ### States inside a JSON text -/

/-- No block collection is open and no key is required; `found` are the tokens so far, and `depth` flow
collections are open. -/
structure Calm (l : Lexer) (found : List Token) (depth : Nat) : Prop where
  margin : l.margin = 0
  margins : l.margins = []
  relaxed : ∀ k ∈ l.keys, ∀ s ∈ k, s.required = false
  depth : l.keys.length = depth + 1
  tokens : l.tokens.toList = found

/-- `ahead` follows, perhaps behind blanks. -/
structure At (l : Lexer) (ahead : List Char) (found : List Token) (depth : Nat) : Prop where
  calm : Calm l found depth
  ahead : ∃ gaps, (∀ x ∈ gaps, isGap x) ∧ l.cursor.rest = gaps ++ ahead

section Calm

variable {l : Lexer} {found : List Token} {depth : Nat}

theorem Calm.inFlow (h : Calm l found depth) : l.inFlow = decide (0 < depth) := by
  unfold Lexer.inFlow
  rw [h.depth]
  simp

theorem Calm.at {ahead : List Char} (h : Calm l found depth) (hrest : l.cursor.rest = ahead) :
    At l ahead found depth :=
  ⟨h, [], by simp, hrest⟩

/-- Blanks ahead do not matter. -/
theorem At.skip {gaps ahead : List Char} (h : At l (gaps ++ ahead) found depth)
    (hgaps : ∀ x ∈ gaps, isGap x) : At l ahead found depth := by
  obtain ⟨before, hbefore, hrest⟩ := h.ahead
  refine ⟨h.calm, before ++ gaps, fun x hx => ?_, by rw [hrest, List.append_assoc]⟩
  rcases List.mem_append.mp hx with hx | hx
  · exact hbefore x hx
  · exact hgaps x hx

/-- A key that is not required can always be given up. -/
theorem Calm.dropKey (h : Calm l found depth) : l.dropKey = .ok (l.setKey none) := by
  unfold Lexer.dropKey
  have hrelaxed : l.currentKey.any (·.required) = false := by
    unfold Lexer.currentKey
    cases hkeys : l.keys with
    | nil => rfl
    | cons o ks =>
      cases o with
      | none => rfl
      | some k =>
        have hmem : some k ∈ l.keys := hkeys ▸ List.mem_cons_self
        simpa using h.relaxed _ hmem k rfl
  rw [hrelaxed]
  rfl

theorem Calm.setKey (h : Calm l found depth) {k : Option KeyStart}
    (hk : ∀ s ∈ k, s.required = false) : Calm (l.setKey k) found depth := by
  refine ⟨h.margin, h.margins, fun o ho => ?_, ?_, h.tokens⟩
  · rcases List.mem_cons.mp ho with rfl | ho
    · exact hk
    · exact h.relaxed o (List.mem_of_mem_drop ho)
  · have hdepth := h.depth
    simp only [Lexer.setKey, List.length_cons, List.length_drop]
    omega

end Calm

/-! ### Between tokens -/

/-- A character that starts a token. -/
def startsToken (x : Char) : Bool := !isGap x && !isBreak x && x != '#'

theorem skipComment_eq {c : Cursor} {spaces tail : List Char} (hrest : c.rest = spaces ++ tail)
    (hspaces : ∀ x ∈ spaces, (x == ' ') = true) (htail : ∀ x ∈ tail.head?, x ≠ ' ' ∧ x ≠ '#') :
    c.skipComment = c.skip spaces.length := by
  have hbehind := Cursor.rest_skip_of_eq hrest
  have hmark : ((c.skip spaces.length).peek 0 == some '#') = false := by
    rw [Cursor.peek, hbehind, ← List.head?_eq_getElem?, beq_eq_false_iff_ne]
    exact fun heq => (htail '#' heq).2 rfl
  unfold Cursor.skipComment
  rw [Cursor.skipWhile_eq, skipWhile_spaces hrest hspaces fun x hx => (htail x hx).1]
  simp [hmark]

/-- The lexer passes over blanks; a key may still start behind them if one could in front of them. -/
theorem skipBlanks_gap : ∀ {fuel : Nat} {l : Lexer} {gaps ahead : List Char},
    l.cursor.rest = gaps ++ ahead → (∀ x ∈ gaps, isGap x) → (∀ x ∈ ahead.head?, startsToken x) →
    gaps.length < fuel →
    ∃ allowed, (l.keyAllowed = true → allowed = true) ∧ Lexer.skipBlanks fuel l =
      { l with cursor := l.cursor.skip gaps.length, keyAllowed := allowed }
  | 0, _, _, _, _, _, _, hfuel => absurd hfuel (Nat.not_lt_zero _)
  | fuel + 1, l, gaps, ahead, hrest, hgaps, hahead, hfuel => by
    have hstart : ∀ x ∈ ahead.head?, (x ≠ ' ' ∧ x ≠ '#') ∧ isBreak x = false := by
      intro x hx
      have := hahead x hx
      simp only [startsToken, isGap, Bool.and_eq_true, Bool.not_eq_true', Bool.or_eq_false_iff,
        beq_eq_false_iff_ne, bne_iff_ne] at this
      exact ⟨⟨this.1.1.1, this.2⟩, this.1.2⟩
    rw [Lexer.skipBlanks]
    obtain ⟨spaces, hspaces, hcase⟩ := gap_cases hgaps
    rcases hcase with rfl | ⟨more, rfl, hmore⟩
    · rw [skipComment_eq hrest hspaces fun x hx => (hstart x hx).1]
      have hbehind := Cursor.rest_skip_of_eq hrest
      rw [Cursor.lineBreak?_eq_none fun x hx => (hstart x (hbehind ▸ hx)).2]
      exact ⟨l.keyAllowed, id, rfl⟩
    · rw [List.append_assoc] at hrest
      have hblank : ∀ x ∈ ('\n' :: more ++ ahead).head?, x ≠ ' ' ∧ x ≠ '#' := by
        intro x hx
        obtain rfl := Option.some.inj hx
        decide
      rw [skipComment_eq hrest hspaces hblank]
      have hbehind := Cursor.rest_skip_of_eq hrest
      rw [List.cons_append] at hbehind
      have hnext : (l.cursor.skip spaces.length).next.rest = more ++ ahead := by
        rw [Cursor.rest_next, hbehind]
        rfl
      rw [List.length_append, List.length_cons] at hfuel
      rw [Cursor.lineBreak?_newline hbehind]
      dsimp only
      set m : Lexer := { l with
        cursor := (l.cursor.skip spaces.length).next
        keyAllowed := l.keyAllowed || !l.inFlow } with hm
      have hrest' : m.cursor.rest = more ++ ahead := hnext
      obtain ⟨allowed, hallowed, heq⟩ :=
        skipBlanks_gap hrest' hmore hahead (by omega : more.length < fuel)
      refine ⟨allowed, fun h => hallowed (by simp [hm, h]), ?_⟩
      rw [heq, hm]
      dsimp only
      rw [Cursor.next_skip, Cursor.skip_skip, List.length_append, List.length_cons]
      congr 2
      omega

section Step

variable {l : Lexer} {found : List Token} {depth : Nat}

/-- Stale keys are given up, and only these. -/
theorem Calm.dropStale (h : Calm l found depth) :
    ∃ m, l.dropStale = .ok m ∧ Calm m found depth ∧ m.cursor = l.cursor ∧
      m.keyAllowed = l.keyAllowed ∧
      ∀ k, l.currentKey = some k → Lexer.isStale l.cursor k = false → m.currentKey = some k := by
  have hnone : (l.keys.any fun k =>
      k.any (Lexer.isStale l.cursor) && k.any (·.required)) = false := by
    refine List.any_eq_false.mpr fun k hk => ?_
    cases k with
    | none => simp
    | some s => simp [h.relaxed _ hk s rfl]
  refine ⟨{ l with keys := l.keys.map fun k => if k.any (Lexer.isStale l.cursor) then none else k },
    ?_, ?_, rfl, rfl, ?_⟩
  · unfold Lexer.dropStale
    simp only [hnone, Bool.false_eq_true, if_false]
  · refine ⟨h.margin, h.margins, fun o ho s hs => ?_, by rw [List.length_map]; exact h.depth, h.tokens⟩
    obtain ⟨k, hk, rfl⟩ := List.mem_map.mp ho
    split_ifs at hs
    · cases hs
    · exact h.relaxed k hk s hs
  · intro k hkey hfresh
    unfold Lexer.currentKey at hkey ⊢
    cases hkeys : l.keys with
    | nil => simp [hkeys] at hkey
    | cons o ks =>
      rw [hkeys] at hkey
      have ho : o = some k := hkey
      simp [ho, hfresh]

theorem Calm.unwind (h : Calm l found depth) (limit : Nat) : l.unwind limit = l := by
  unfold Lexer.unwind
  split_ifs
  · rfl
  · rw [h.margins, Lexer.unwindTo]
    dsimp only
    rw [← h.margins]

/-- What a step does before it looks at a character. -/
theorem step_gap {gaps ahead : List Char} (h : Calm l found depth)
    (hrest : l.cursor.rest = gaps ++ ahead) (hgaps : ∀ y ∈ gaps, isGap y)
    (hahead : ∀ x ∈ ahead.head?, startsToken x) :
    ∃ m, Calm m found depth ∧ m.cursor = l.cursor.skip gaps.length ∧
      (l.keyAllowed = true → m.keyAllowed = true) ∧
      (∀ k, l.currentKey = some k → Lexer.isStale m.cursor k = false → m.currentKey = some k) ∧
      l.step = match m.cursor.peek 0 with
        | none => (m.unwind 0).dropKey >>= fun l' => .ok (l', true)
        | some c => m.token c >>= fun l' => .ok (l', false) := by
  have hroom : gaps.length < l.cursor.rest.length + 1 := by
    rw [hrest, List.length_append]
    omega
  obtain ⟨allowed, hallowed, hskip⟩ := skipBlanks_gap hrest hgaps hahead hroom
  obtain ⟨m, hdrop, hm, hcursor, hkeep, hkeys⟩ : ∃ m,
      (Lexer.skipBlanks (l.cursor.rest.length + 1) l).dropStale = .ok m ∧ Calm m found depth ∧
        m.cursor = l.cursor.skip gaps.length ∧ m.keyAllowed = allowed ∧
        ∀ k, l.currentKey = some k → Lexer.isStale (l.cursor.skip gaps.length) k = false →
          m.currentKey = some k := by
    rw [hskip]
    exact Calm.dropStale ⟨h.margin, h.margins, h.relaxed, h.depth, h.tokens⟩
  refine ⟨m, hm, hcursor, fun hk => hkeep ▸ hallowed hk, fun k hk hfresh => ?_, ?_⟩
  · exact hkeys k hk (hcursor ▸ hfresh)
  · have hunwind := hm.unwind (m.cursor.column + 1)
    unfold Lexer.step
    rw [hdrop]
    change (match (m.unwind (m.cursor.column + 1)).cursor.peek 0 with
      | none => _
      | some c => _) = _
    rw [hunwind]

/-- The end of the text. -/
theorem lexFrom_end (h : At l [] found depth) {n : Nat} (hn : 0 < n) : lexFrom n l = ⟨found, none⟩ := by
  obtain ⟨n, rfl⟩ := Nat.exists_eq_add_one.mpr hn
  obtain ⟨gaps, hgaps, hrest⟩ := h.ahead
  obtain ⟨m, hm, hcursor, -, -, hstep⟩ := step_gap h.calm hrest hgaps (by simp)
  have hpeek : m.cursor.peek 0 = none := by
    rw [hcursor, Cursor.peek, Cursor.rest_skip_of_eq hrest]
    rfl
  rw [lexFrom, hstep, hpeek]
  dsimp only
  rw [hm.unwind, hm.dropKey]
  change Tokens.mk m.tokens.toList none = _
  rw [hm.tokens]

/-- A token: what the lexer does at its first character it does from the blanks in front of it. -/
theorem lex_token {x : Char} {rest : List Char} {P : Lexer → Prop} (h : At l (x :: rest) found depth)
    (hx : startsToken x)
    (htoken : ∀ m, Calm m found depth → m.cursor.rest = x :: rest →
      (l.keyAllowed = true → m.keyAllowed = true) →
      ∃ l', m.token x = .ok l' ∧ l'.cursor.rest.length < m.cursor.rest.length ∧ P l') :
    ∃ l', Leads l l' ∧ P l' := by
  obtain ⟨gaps, hgaps, hrest⟩ := h.ahead
  have hahead : ∀ y ∈ (x :: rest).head?, startsToken y := fun y hy => Option.some.inj hy ▸ hx
  obtain ⟨m, hm, hcursor, hallowed, -, hstep⟩ := step_gap h.calm hrest hgaps hahead
  have hmRest : m.cursor.rest = x :: rest := by rw [hcursor, Cursor.rest_skip_of_eq hrest]
  obtain ⟨l', hl', hlength, hP⟩ := htoken m hm hmRest hallowed
  refine ⟨l', leads_of_step ?_ ?_, hP⟩
  · rw [hstep, Cursor.peek_of_eq hmRest]
    dsimp only
    rw [hl']
    rfl
  · rw [hmRest] at hlength
    rw [hrest, List.length_append]
    omega

end Step

/-! ### Single tokens -/

section Token

variable {l : Lexer} {found : List Token} {depth : Nat} {rest : List Char}

theorem Calm.length_tokens (h : Calm l found depth) : l.tokens.size = found.length := by
  rw [← h.tokens, Array.length_toList]

/-- A key may be remembered, and is then remembered with the place where it starts. -/
theorem Calm.saveKey (h : Calm l found depth) :
    ∃ m, l.saveKey = .ok m ∧ Calm m found depth ∧ m.cursor = l.cursor ∧
      (l.keyAllowed = true → m.currentKey =
        some ⟨found.length, false, l.cursor.index, l.cursor.line, l.cursor.column⟩) := by
  unfold Lexer.saveKey
  cases hallowed : l.keyAllowed with
  | false => exact ⟨l, rfl, h, rfl, fun hk => absurd hk (by decide)⟩
  | true =>
    have hmargin : (l.margin == l.cursor.column + 1) = false := by
      rw [h.margin]
      rfl
    rw [h.dropKey]
    refine ⟨_, rfl, (h.setKey (k := none) (by simp)).setKey ?_, rfl, fun _ => ?_⟩
    · intro k hk
      obtain rfl := Option.some.inj hk
      change (_ && (l.margin == l.cursor.column + 1)) = false
      rw [hmargin, Bool.and_false]
    · change some (KeyStart.mk l.tokens.size (_ && (l.margin == l.cursor.column + 1)) _ _ _) = _
      rw [hmargin, Bool.and_false, h.length_tokens]
      rfl

theorem Calm.mark (h : Calm l found depth) (t : Token) (width : Nat) :
    Calm (l.mark t width) (found ++ [t]) depth := by
  refine ⟨h.margin, h.margins, h.relaxed, h.depth, ?_⟩
  change (l.tokens.push t).toList = _
  rw [Array.toList_push, h.tokens]

theorem Calm.openFlow (h : Calm l found depth) (t : Token) :
    ∃ m, l.openFlow t = .ok m ∧ Calm m (found ++ [t]) (depth + 1) ∧ m.cursor = l.cursor.skip 1 ∧
      m.keyAllowed = true := by
  obtain ⟨m, hsave, hm, hcursor, -⟩ := h.saveKey
  have hopen : Calm { m with keys := none :: m.keys, keyAllowed := true } found (depth + 1) := by
    refine ⟨hm.margin, hm.margins, fun k hk => ?_, by rw [List.length_cons, hm.depth], hm.tokens⟩
    rcases List.mem_cons.mp hk with rfl | hk
    · simp
    · exact hm.relaxed k hk
  unfold Lexer.openFlow
  rw [hsave]
  refine ⟨_, rfl, hopen.mark t 1, ?_, rfl⟩
  rw [← hcursor]
  rfl

theorem Calm.closeFlow (h : Calm l found (depth + 1)) (t : Token) :
    ∃ m, l.closeFlow t = .ok m ∧ Calm m (found ++ [t]) depth ∧ m.cursor = l.cursor.skip 1 := by
  have hm := h.setKey (k := none) (by simp)
  have hflow : (l.setKey none).inFlow = true := by
    rw [hm.inFlow]
    simp
  have hclose : Calm { l.setKey none with keys := (l.setKey none).keys.drop 1, keyAllowed := false }
      found depth := by
    refine ⟨hm.margin, hm.margins, fun k hk => hm.relaxed k (List.mem_of_mem_drop hk), ?_, hm.tokens⟩
    rw [List.length_drop, hm.depth]
    omega
  unfold Lexer.closeFlow
  rw [h.dropKey]
  change ∃ m, (if (l.setKey none).inFlow then _ else _) = _ ∧ _
  rw [if_pos hflow]
  exact ⟨_, rfl, hclose.mark t 1, rfl⟩

theorem Calm.flowEntry (h : Calm l found depth) :
    ∃ m, l.flowEntry = .ok m ∧ Calm m (found ++ [.flowEntry]) depth ∧ m.cursor = l.cursor.skip 1 ∧
      m.keyAllowed = true := by
  have hm := h.setKey (k := none) (by simp)
  have hallow : Calm { l.setKey none with keyAllowed := true } found depth :=
    ⟨hm.margin, hm.margins, hm.relaxed, hm.depth, hm.tokens⟩
  unfold Lexer.flowEntry
  rw [h.dropKey]
  exact ⟨_, rfl, hallow.mark .flowEntry 1, rfl, rfl⟩

/-- A scalar between quotes, which may be a key. -/
theorem Calm.quoted {s : List Json.Piece} (h : Calm l found depth) (hline : OneLine s)
    (hrest : l.cursor.rest = Json.stringText s ++ rest) :
    ∃ m, l.content (Lexer.quotedToken true) = .ok m ∧
      Calm m (found ++ [.scalar (Json.stringValue s) false]) depth ∧
      m.cursor = l.cursor.skip (Json.stringText s).length ∧
      (l.keyAllowed = true → m.currentKey =
        some ⟨found.length, false, l.cursor.index, l.cursor.line, l.cursor.column⟩) := by
  obtain ⟨m, hsave, hm, hcursor, hkey⟩ := h.saveKey
  have hread : Lexer.quotedToken true m.cursor =
      .ok (.scalar (Json.stringValue s) false, l.cursor.skip (Json.stringText s).length) := by
    unfold Lexer.quotedToken
    rw [hcursor, quotedScalar_stringText hline hrest]
    rfl
  unfold Lexer.content
  rw [hsave]
  change ∃ m', (Lexer.quotedToken true m.cursor >>= _) = _ ∧ _
  rw [hread]
  refine ⟨_, rfl, ⟨hm.margin, hm.margins, hm.relaxed, hm.depth, ?_⟩, rfl, hkey⟩
  change (m.tokens.push _).toList = _
  rw [Array.toList_push, hm.tokens]

/-- A word, with the blanks behind it. -/
theorem Calm.word {w gaps tail : List Char} (h : Calm l found depth)
    (hrest : l.cursor.rest = w ++ (gaps ++ tail)) (hne : w ≠ []) (hw : ∀ x ∈ w, isWordChar x)
    (hgaps : ∀ x ∈ gaps, isGap x) (htail : Closing (decide (0 < depth)) tail) :
    ∃ m, l.plain = .ok m ∧ Calm m (found ++ [.scalar (String.ofList w) true]) depth ∧
      m.cursor.rest = tail := by
  obtain ⟨m, hsave, hm, hcursor, -⟩ := h.saveKey
  rw [← hcursor] at hrest
  obtain ⟨htext, hend⟩ := plainScalar_word hrest hne hw hgaps htail
  rw [← hm.inFlow] at htext hend
  unfold Lexer.plain
  rw [hsave]
  refine ⟨_, rfl, ⟨hm.margin, hm.margins, hm.relaxed, hm.depth, ?_⟩, ?_⟩
  · change (m.tokens.push (.scalar (String.ofList (plainScalar m.inFlow m.margin m.cursor).text)
      true)).toList = _
    rw [hm.margin, htext, Array.toList_push, hm.tokens]
  · change (plainScalar m.inFlow m.margin m.cursor).cursor.rest = _
    rw [hm.margin, hend]

theorem toList_insertIdx_last {tokens : Array Token} {t : Token} (h : tokens.toList = found ++ [t])
    (x : Token) : (tokens.insertIdxIfInBounds found.length x).toList = found ++ [x, t] := by
  have hplace : found.length ≤ tokens.size := by
    rw [← Array.length_toList, h, List.length_append]
    omega
  have hinsert : (found ++ [t]).insertIdx found.length x = found ++ [x, t] := by
    clear h hplace
    induction found with
    | nil => rfl
    | cons y found ih => simp [ih]
  rw [Array.insertIdxIfInBounds, dif_pos hplace, Array.toList_insertIdx, h, hinsert]

/-- A colon marks the key that was remembered right before the last token. -/
theorem Calm.value {t : Token} {k : KeyStart} (h : Calm l (found ++ [t]) (depth + 1))
    (hkey : l.currentKey = some k) (hplace : k.tokens = found.length) :
    ∃ m, l.value = .ok m ∧ Calm m (found ++ [.key, t, .value]) (depth + 1) ∧
      m.cursor = l.cursor.skip 1 := by
  have hm := h.setKey (k := none) (by simp)
  have hflow : (l.setKey none).inFlow = true := by
    rw [hm.inFlow]
    simp
  have hmarked : Calm { l.setKey none with
      tokens := l.tokens.insertIdxIfInBounds k.tokens .key
      keyAllowed := false } (found ++ [.key, t]) (depth + 1) := by
    refine ⟨hm.margin, hm.margins, hm.relaxed, hm.depth, ?_⟩
    rw [hplace, toList_insertIdx_last h.tokens]
  have hvalue := hmarked.mark .value 1
  rw [List.append_assoc] at hvalue
  refine ⟨_, ?_, hvalue, rfl⟩
  have hkept : (if Lexer.inFlow { l.setKey none with
        tokens := l.tokens.insertIdxIfInBounds k.tokens .key } then
      { l.setKey none with tokens := l.tokens.insertIdxIfInBounds k.tokens .key }
    else Lexer.indent { l.setKey none with
        tokens := l.tokens.insertIdxIfInBounds k.tokens .key } k.column k.tokens .blockMappingStart) =
      { l.setKey none with tokens := l.tokens.insertIdxIfInBounds k.tokens .key } :=
    if_pos hflow
  unfold Lexer.value
  rw [hkey]
  dsimp only
  rw [hkept]

theorem atMark_eq_false {c : Cursor} {x : Char} (hrest : c.rest = x :: rest) (hx : x ≠ '-' ∧ x ≠ '.') :
    c.atMark Cursor.documentStart = false ∧ c.atMark Cursor.documentEnd = false := by
  have hseparator : c.atSeparator = false :=
    atSeparator_eq_false fun y hy => by
      rw [hrest] at hy
      exact Option.some.inj hy ▸ hx
  exact Bool.or_eq_false_iff.mp hseparator

theorem token_openList (hrest : l.cursor.rest = '[' :: rest) :
    l.token '[' = l.openFlow .flowSequenceStart := by
  obtain ⟨hstart, hend⟩ := atMark_eq_false hrest (by decide)
  simp [Lexer.token, hstart, hend]

theorem token_closeList (hrest : l.cursor.rest = ']' :: rest) :
    l.token ']' = l.closeFlow .flowSequenceEnd := by
  obtain ⟨hstart, hend⟩ := atMark_eq_false hrest (by decide)
  simp [Lexer.token, hstart, hend]

theorem token_openObject (hrest : l.cursor.rest = '\x7b' :: rest) :
    l.token '\x7b' = l.openFlow .flowMappingStart := by
  obtain ⟨hstart, hend⟩ := atMark_eq_false hrest (by decide)
  simp [Lexer.token, hstart, hend]

theorem token_closeObject (hrest : l.cursor.rest = '\x7d' :: rest) :
    l.token '\x7d' = l.closeFlow .flowMappingEnd := by
  obtain ⟨hstart, hend⟩ := atMark_eq_false hrest (by decide)
  simp [Lexer.token, hstart, hend]

theorem token_comma (hrest : l.cursor.rest = ',' :: rest) : l.token ',' = l.flowEntry := by
  obtain ⟨hstart, hend⟩ := atMark_eq_false hrest (by decide)
  simp [Lexer.token, hstart, hend]

theorem token_colon (hrest : l.cursor.rest = ':' :: rest) (hflow : l.inFlow = true) :
    l.token ':' = l.value := by
  obtain ⟨hstart, hend⟩ := atMark_eq_false hrest (by decide)
  simp [Lexer.token, hstart, hend, hflow]

theorem token_quote (hrest : l.cursor.rest = doubleQuote :: rest) :
    l.token doubleQuote = l.content (Lexer.quotedToken true) := by
  obtain ⟨hstart, hend⟩ := atMark_eq_false hrest (by decide)
  simp [Lexer.token, hstart, hend, doubleQuote, singleQuote]

/-- What a word or a number starts with: a letter or a digit, or a minus sign in front of a digit. -/
def StartsWord (x : Char) (rest : List Char) : Prop :=
  x.isAlphanum ∨ x = '-' ∧ ∃ d s, rest = d :: s ∧ d.isDigit

theorem StartsWord.isWordChar {x : Char} (h : StartsWord x rest) : isWordChar x := by
  rcases h with hx | ⟨rfl, -⟩
  · simp [Yaml.isWordChar, hx]
  · decide

theorem StartsWord.atMark {x : Char} (h : StartsWord x rest) (hrest : l.cursor.rest = x :: rest) :
    l.cursor.atMark Cursor.documentStart = false ∧ l.cursor.atMark Cursor.documentEnd = false := by
  rcases h with hx | ⟨rfl, d, s, rfl, hd⟩
  · refine atMark_eq_false hrest ⟨?_, ?_⟩
    · rintro rfl
      exact absurd hx (by decide)
    · rintro rfl
      exact absurd hx (by decide)
  · have hdash : d ≠ '-' := by
      rintro rfl
      exact absurd hd (by decide)
    simp [Cursor.atMark, Cursor.documentStart, Cursor.documentEnd, hrest, hdash]

/-- A dash is an entry of a block only in front of a blank. -/
theorem StartsWord.noEntry {x : Char} (h : StartsWord x rest) (hrest : l.cursor.rest = x :: rest) :
    (x == '-' && endsWord (l.cursor.peek 1)) = false := by
  rcases h with hx | ⟨rfl, d, s, rfl, hd⟩
  · have hne : x ≠ '-' := by
      rintro rfl
      exact absurd hx (by decide)
    simp [hne]
  · have hword : Yaml.isWordChar d := by simp [Yaml.isWordChar, Char.isAlphanum, hd]
    simp [Cursor.peek, hrest, endsWord, isSpace_of_isWordChar hword, isBreak_of_isWordChar hword]

theorem StartsWord.startsPlain {x : Char} (h : StartsWord x rest) (hrest : l.cursor.rest = x :: rest) :
    Lexer.startsPlain l.inFlow x (l.cursor.peek 1) = true := by
  have hword := h.isWordChar
  unfold Lexer.startsPlain
  by_cases hminus : x = '-'
  · have hdash := h.noEntry hrest
    simp only [hminus, beq_self_eq_true, Bool.true_and] at hdash
    simp [hminus, hdash]
  · have hnone : Lexer.indicators.contains x = false := by
      have hall : ∀ y ∈ Lexer.indicators, y = '-' ∨ Yaml.isWordChar y = false := by decide
      rw [← Bool.not_eq_true, List.contains_iff_mem]
      intro hmem
      rcases hall x hmem with heq | hy
      · exact hminus heq
      · exact isWordChar_ne hword hy rfl
    rw [isSpace_of_isWordChar hword, isBreak_of_isWordChar hword, hnone]
    rfl

theorem token_word {x : Char} (hrest : l.cursor.rest = x :: rest) (hx : StartsWord x rest) :
    l.token x = l.plain := by
  have hword := hx.isWordChar
  have hmark := hx.atMark hrest
  have hne : ∀ y, isWordChar y = false → (x == y) = false := fun y hy => by
    simpa using isWordChar_ne hword hy
  have hbraces : (x.toNat == 0x7B) = false ∧ (x.toNat == 0x7D) = false := by
    have hrange := toNat_of_isWordChar hword
    simp only [beq_eq_false_iff_ne]
    omega
  unfold Lexer.token
  simp only [hne '%' rfl, hne '[' rfl, hne ']' rfl, hne ',' rfl, hne '?' rfl, hne ':' rfl, hne '*' rfl,
    hne '&' rfl, hne '!' rfl, hne '|' rfl, hne '>' rfl, hne singleQuote rfl, hne doubleQuote rfl,
    hbraces.1, hbraces.2, hmark.1, hmark.2, hx.noEntry hrest, hx.startsPlain hrest, Bool.false_and,
    Bool.and_false, Bool.false_eq_true, if_false, if_true]

end Token

/-! ### From one token to the next -/

section Tokens

variable {l : Lexer} {found : List Token} {depth : Nat} {rest : List Char}

theorem lex_openFlow {x : Char} {t : Token} (h : At l (x :: rest) found depth) (hx : startsToken x)
    (htoken : ∀ m : Lexer, m.cursor.rest = x :: rest → m.token x = m.openFlow t) :
    ∃ l', Leads l l' ∧ At l' rest (found ++ [t]) (depth + 1) ∧ l'.keyAllowed = true := by
  refine lex_token h hx fun m hm hrest _ => ?_
  obtain ⟨l', hopen, hcalm, hcursor, hallowed⟩ := hm.openFlow t
  have hbehind : l'.cursor.rest = rest := by
    rw [hcursor, Cursor.rest_skip, hrest]
    rfl
  exact ⟨l', by rw [htoken m hrest, hopen], by rw [hbehind, hrest, List.length_cons]; omega,
    hcalm.at hbehind, hallowed⟩

theorem lex_closeFlow {x : Char} {t : Token} (h : At l (x :: rest) found (depth + 1))
    (hx : startsToken x) (htoken : ∀ m : Lexer, m.cursor.rest = x :: rest → m.token x = m.closeFlow t) :
    ∃ l', Leads l l' ∧ At l' rest (found ++ [t]) depth := by
  refine lex_token h hx fun m hm hrest _ => ?_
  obtain ⟨l', hclose, hcalm, hcursor⟩ := hm.closeFlow t
  have hbehind : l'.cursor.rest = rest := by
    rw [hcursor, Cursor.rest_skip, hrest]
    rfl
  exact ⟨l', by rw [htoken m hrest, hclose], by rw [hbehind, hrest, List.length_cons]; omega,
    hcalm.at hbehind⟩

theorem lex_comma (h : At l (',' :: rest) found depth) :
    ∃ l', Leads l l' ∧ At l' rest (found ++ [.flowEntry]) depth ∧ l'.keyAllowed = true := by
  refine lex_token h (by decide) fun m hm hrest _ => ?_
  obtain ⟨l', hentry, hcalm, hcursor, hallowed⟩ := hm.flowEntry
  have hbehind : l'.cursor.rest = rest := by
    rw [hcursor, Cursor.rest_skip, hrest]
    rfl
  exact ⟨l', by rw [token_comma hrest, hentry], by rw [hbehind, hrest, List.length_cons]; omega,
    hcalm.at hbehind, hallowed⟩

/-- Behind a string the lexer remembers where the string started, for it may turn out to be a name. -/
theorem lex_quoted {s : List Json.Piece} (h : At l (Json.stringText s ++ rest) found depth)
    (hline : OneLine s) :
    ∃ l', Leads l l' ∧ ∃ start : Cursor,
      Calm l' (found ++ [.scalar (Json.stringValue s) false]) depth ∧
      start.rest = Json.stringText s ++ rest ∧ l'.cursor = start.skip (Json.stringText s).length ∧
      (l.keyAllowed = true →
        l'.currentKey = some ⟨found.length, false, start.index, start.line, start.column⟩) := by
  refine lex_token h (by decide) fun m hm hstring hkeep => ?_
  have hrest : m.cursor.rest = Json.stringText s ++ rest := hstring
  obtain ⟨l', hread, hcalm, hcursor, hkey⟩ := hm.quoted hline hrest
  refine ⟨l', by rw [token_quote hstring, hread], ?_, m.cursor, hcalm, hrest, hcursor,
    fun hallowed => hkey (hkeep hallowed)⟩
  rw [hcursor, Cursor.rest_skip_of_eq hrest, hrest, List.length_append]
  exact Nat.lt_add_of_pos_left (Nat.succ_pos _)

theorem lex_string {s : List Json.Piece} (h : At l (Json.stringText s ++ rest) found depth)
    (hline : OneLine s) :
    ∃ l', Leads l l' ∧ At l' rest (found ++ [.scalar (Json.stringValue s) false]) depth := by
  obtain ⟨l', hleads, start, hcalm, hstart, hcursor, -⟩ := lex_quoted h hline
  exact ⟨l', hleads, hcalm.at (by rw [hcursor, Cursor.rest_skip_of_eq hstart])⟩

theorem lex_word {w gaps tail : List Char} (h : At l (w ++ (gaps ++ tail)) found depth)
    (hw : ∀ x ∈ w, isWordChar x)
    (hstart : ∃ x s, w = x :: s ∧ StartsWord x s)
    (hgaps : ∀ x ∈ gaps, isGap x) (htail : Closing (decide (0 < depth)) tail) :
    ∃ l', Leads l l' ∧ At l' tail (found ++ [.scalar (String.ofList w) true]) depth := by
  obtain ⟨x, s, rfl, hx⟩ := hstart
  have hword : isWordChar x := hw x List.mem_cons_self
  have hstarts : startsToken x := by
    have hgap : isGap x = false := by
      simp [isGap, isWordChar_ne (x := ' ') hword rfl, isWordChar_ne (x := '\n') hword rfl]
    simp [startsToken, hgap, isBreak_of_isWordChar hword, isWordChar_ne (x := '#') hword rfl]
  have hfirst : StartsWord x (s ++ (gaps ++ tail)) := by
    rcases hx with hx | ⟨rfl, d, s', rfl, hd⟩
    · exact Or.inl hx
    · exact Or.inr ⟨rfl, d, _, rfl, hd⟩
  refine lex_token h hstarts fun m hm hrest _ => ?_
  obtain ⟨l', hread, hcalm, hbehind⟩ := hm.word hrest (List.cons_ne_nil _ _) hw hgaps htail
  refine ⟨l', by rw [token_word hrest hfirst, hread], ?_, hcalm.at hbehind⟩
  have hlength : m.cursor.rest.length = s.length + (gaps.length + tail.length) + 1 := by
    rw [hrest, List.length_cons, List.append_eq, List.length_append, List.length_append]
  rw [hbehind, hlength]
  omega

/-- A name and the colon behind it, on one line and not too far away. -/
theorem lex_key {name : List Json.Piece} {gap : List Char}
    (h : At l (Json.stringText name ++ (gap ++ ':' :: rest)) found (depth + 1))
    (hallowed : l.keyAllowed = true) (hline : OneLine name) (hgap : ∀ x ∈ gap, x = ' ')
    (hreach : (Json.stringText name).length + gap.length ≤ Lexer.keyReach) :
    ∃ l', Leads l l' ∧
      At l' rest (found ++ [.key, .scalar (Json.stringValue name) false, .value]) (depth + 1) := by
  obtain ⟨l₁, hleads, start, hcalm, hstart, hcursor, hkey⟩ := lex_quoted h hline
  have hgaps : ∀ x ∈ gap, isGap x := fun x hx => by rw [hgap x hx]; decide
  have hbehind : l₁.cursor.rest = gap ++ ':' :: rest := by
    rw [hcursor, Cursor.rest_skip_of_eq hstart]
  have hahead : ∀ x ∈ (':' :: rest).head?, startsToken x := fun x hx => by
    obtain rfl := Option.some.inj hx
    decide
  obtain ⟨m, hm, hmCursor, -, hmKey, hstep⟩ := step_gap hcalm hbehind hgaps hahead
  have hmRest : m.cursor.rest = ':' :: rest := by rw [hmCursor, Cursor.rest_skip_of_eq hbehind]
  -- nothing ends the line between the start of the name and the colon
  have hspan : ∀ x ∈ Json.stringText name ++ gap, isBreak x = false := by
    intro x hx
    rcases List.mem_append.mp hx with hx | hx
    · exact hline.isBreak x hx
    · rw [hgap x hx]
      decide
  have hplace := Cursor.skip_in_line (c := start) (by rw [hstart, List.append_assoc]) hspan
  have hfresh : Lexer.isStale m.cursor
      ⟨found.length, false, start.index, start.line, start.column⟩ = false := by
    rw [hmCursor, hcursor, Cursor.skip_skip, ← List.length_append, Lexer.isStale, hplace.1, hplace.2,
      List.length_append]
    simp only [bne_self_eq_false, Bool.false_or, decide_eq_false_iff_not]
    omega
  obtain ⟨l₂, hvalue, hcalm₂, hcursor₂⟩ := hm.value (hmKey _ (hkey hallowed) hfresh) rfl
  have hrest₂ : l₂.cursor.rest = rest := by
    rw [hcursor₂, Cursor.rest_skip, hmRest]
    rfl
  have hflow : m.inFlow = true := by
    rw [hm.inFlow]
    simp
  refine ⟨l₂, hleads.trans (leads_of_step ?_ ?_), hcalm₂.at hrest₂⟩
  · rw [hstep, Cursor.peek_of_eq hmRest]
    dsimp only
    rw [token_colon hmRest hflow, hvalue]
    rfl
  · rw [hrest₂, hbehind, List.length_append, List.length_cons]
    omega

/-- No token starts with a tab. -/
theorem lex_tab (h : At l ('\t' :: rest) found depth) : Faults l := by
  intro n hn
  obtain ⟨n, rfl⟩ : ∃ k, n = k + 1 := Nat.exists_eq_add_one.mpr (by omega)
  obtain ⟨gaps, hgaps, hrest⟩ := h.ahead
  have hahead : ∀ x ∈ ('\t' :: rest).head?, startsToken x := fun x hx => by
    obtain rfl := Option.some.inj hx
    decide
  obtain ⟨m, -, hcursor, -, -, hstep⟩ := step_gap h.calm hrest hgaps hahead
  have hmRest : m.cursor.rest = '\t' :: rest := by rw [hcursor, Cursor.rest_skip_of_eq hrest]
  have htoken : m.token '\t' = .error .malformed := by
    obtain ⟨hstart, hend⟩ := atMark_eq_false hmRest (by decide)
    have hspace : isSpace '\t' = true := by decide
    simp [Lexer.token, hstart, hend, Lexer.startsPlain, hspace, singleQuote, doubleQuote]
  rw [lexFrom, hstep, Cursor.peek_of_eq hmRest]
  dsimp only
  rw [htoken]
  rfl

end Tokens

end PatternLint.Yaml
