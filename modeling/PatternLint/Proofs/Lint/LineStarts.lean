import PatternLint.Proofs.Lint.Scoping
import PatternLint.Proofs.Lint.Spans

/-!
# Line starts of patterns and of positions

A pattern knows one line end, the line feed; positions know three.  Every line start of a pattern is one
of the positions (`IsLineStart.mem_lineStarts`): behind a line feed a line starts for both, whether a
carriage return stands before it or not.  The converse fails behind a carriage return that stands alone.

So a pattern that opens with a line start is found in first columns only, wherever the scan has been
taken up again.
-/

namespace PatternLint

/-! ### First columns -/

/-- The first column is where a line starts. -/
theorem column_eq_one_iff {text : List Char} {o : Nat} :
    (positionAt text o).column = 1 ↔ o ∈ lineStarts text := by
  have hloc := locates_positionAt text o
  constructor
  · intro hcolumn
    have hstart := hloc.start
    rw [hcolumn, Nat.add_sub_cancel] at hstart
    exact List.mem_of_getElem? hstart
  · intro hmem
    obtain ⟨j, hj⟩ := List.getElem?_of_mem hmem
    have hfirst : Locates (lineStarts text) o ⟨j + 1, 1⟩ := by
      refine ⟨by simp, le_rfl, by simp, hj, fun n hn => ?_⟩
      obtain ⟨hlt, rfl⟩ := List.getElem?_eq_some_iff.mp hj
      obtain ⟨hlt', rfl⟩ := List.getElem?_eq_some_iff.mp hn
      exact List.pairwise_iff_getElem.mp (lineStarts_sorted text) j (j + 1) hlt hlt' (by omega)
    rw [hloc.unique (lineStarts_sorted text) hfirst]

namespace Pattern

/-- Where a line starts for a pattern: at the start of the text, or directly behind a line feed. -/
def IsLineStart (text : List Char) (o : Nat) : Prop :=
  o = 0 ∨ ∃ k, o = k + 1 ∧ text[k]? = some '\n'

theorem holds_lineStart_iff {text : List Char} {m : Mode} {o : Nat} :
    Anchor.lineStart.holds text.toArray m o = true ↔
      o = 0 ∨ m.multiline = true ∧ IsLineStart text o := by
  have hcode : ∀ k, codeAt? text.toArray k = some 10 ↔ text[k]? = some '\n' := by
    intro k
    unfold codeAt?
    rw [List.getElem?_toArray]
    cases text[k]? with
    | none => simp
    | some c => simp [← Char.toNat_inj]
  cases o with
  | zero => simp [Anchor.holds]
  | succ k => simp [Anchor.holds, IsLineStart, hcode]

theorem IsLineStart.mem_lineStarts {text : List Char} {o : Nat} (h : IsLineStart text o) :
    o ∈ lineStarts text := by
  rcases h with rfl | ⟨k, rfl, hk⟩
  · exact List.mem_cons_self
  · exact List.mem_cons_of_mem 0 (mem_lineEnds.mpr ⟨k + 1, by omega, k, rfl, Or.inl hk⟩)

/-- A pattern that opens with a line start matches at line starts only. -/
theorem isLineStart_of_matchAt {text : List Char} {p : Pattern} {rest : List Node} {o e : Nat}
    (hp : p.node = .seqOf (.anchor .lineStart :: rest))
    (h : matchAt text.toArray p o = some e) : IsLineStart text o := by
  obtain ⟨q, hq, -⟩ := Option.map_eq_some_iff.mp h
  rw [hp, Node.run_seqOf_cons, Node.run] at hq
  split_ifs at hq with hholds
  rcases holds_lineStart_iff.mp hholds with hzero | ⟨-, hstart⟩
  · exact Or.inl hzero
  · exact hstart

end Pattern

/-! ### Findings -/

namespace Engine

/-- **A pattern that opens with a line start is found in first columns only.**  The findings in a file are
what each rule contributes; all that such a rule contributes starts in the first column of a line, at the
start of the text or directly behind a line feed. -/
theorem lineStart_found_in_firstColumn (e : Engine) (path text : String) :
    e.lintText path text = .ok (e.ruleSet.rules.flatMap (e.contribution · (path, text))) ∧
    ∀ (r : Rule) (rest : List Pattern.Node),
      r.compiled.node = .seqOf (.anchor .lineStart :: rest) →
      ∀ a ∈ e.contribution r (path, text),
        a.startColumn = 1 ∧
        ∃ o, offsetAt? text.toList a.startLine a.startColumn = some o ∧
          Pattern.IsLineStart text.toList o := by
  refine ⟨?_, fun r rest hr a ha => ?_⟩
  · rw [lintText_eq]
    exact congrArg _ (findingsIn_eq_contributions e (path, text))
  · rw [contribution_eq] at ha
    split_ifs at ha
    · obtain ⟨m, hm, rfl⟩ := List.mem_map.mp ha
      obtain ⟨-, -, hmatch⟩ :=
        (Pattern.lists_findMatches text r.compiled).matching m.span (List.mem_map_of_mem hm)
      have hstart : Pattern.IsLineStart text.toList m.start :=
        Pattern.isLineStart_of_matchAt hr hmatch
      have hcolumn : (positionAt text.toList m.start).column = 1 :=
        column_eq_one_iff.mpr hstart.mem_lineStarts
      rw [finding_eq]
      unfold Annotation.ofMatch
      dsimp only
      exact ⟨by rw [hcolumn]; rfl, m.start, (locates_positionAt text.toList m.start).offsetAt?, hstart⟩
    · simp at ha

/-- Two alternatives that both open with a line start, in a text with all three line ends.  The second line
starts behind a lone carriage return, where the pattern sees no line start, and is not reported. -/
theorem caret_found_in_firstColumn :
    ∃ (r : Rule) (rest : List Pattern.Node),
      Rule.create "r" "^b|^c" none .warning .everywhere false true = .ok r ∧
      r.compiled.node = .seqOf (.anchor .lineStart :: rest) ∧
      (contribution ⟨⟨[r], .everywhere⟩, false, false⟩ r ("a.txt", "b\rb\r\nC\nb")).map
        (·.startLine) = [1, 3, 4] ∧
      ∀ a ∈ contribution ⟨⟨[r], .everywhere⟩, false, false⟩ r ("a.txt", "b\rb\r\nC\nb"),
        a.startColumn = 1 := by
  refine ⟨_, [.char (.oneOf [.code 98, .code 99])], rfl, rfl, by decide +kernel, fun a ha => ?_⟩
  exact ((lineStart_found_in_firstColumn _ "a.txt" "b\rb\r\nC\nb").2 _ _ rfl a ha).1

end Engine

end PatternLint
