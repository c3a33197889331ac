import Mathlib.Data.Prod.Lex
import PatternLint.Proofs.Lint.Findings

/-!
# The spans of findings

A finding names its span by lines and columns.  `offsetAt?` leads them back to offsets through the
starts of the lines, and `SoundSpan` says what is found there: the text between the two offsets is the
one that the message quotes, and the span runs over several lines exactly if a line end lies in it.

Positions grow strictly with offsets (`strictMono_placeOf`), so the findings of one rule come in the
order of its matches and do not overlap.
-/

namespace PatternLint

/-- The offset that a line and a column lead back to. -/
def offsetAt? (text : List Char) (line column : Int) : Option Nat :=
  if 1 ≤ line ∧ 1 ≤ column then
    (lineStarts text)[(line - 1).toNat]?.map (· + (column - 1).toNat)
  else none

theorem Locates.offsetAt? {text : List Char} {o : Nat} {p : Position}
    (h : Locates (lineStarts text) o p) : offsetAt? text p.line p.column = some o := by
  have hl := h.line_pos
  have hc := h.column_pos
  have hle := h.column_le
  rw [PatternLint.offsetAt?, if_pos ⟨by omega, by omega⟩,
    show ((p.line : Int) - 1).toNat = p.line - 1 by omega, h.start, Option.map_some,
    Option.some.injEq]
  omega

/-- A position as a place in the order of lines, then of columns. -/
def placeOf (p : Position) : ℤ ×ₗ ℤ := toLex ((p.line : ℤ), (p.column : ℤ))

theorem strictMono_placeOf (text : List Char) : StrictMono fun o => placeOf (positionAt text o) := by
  intro o o' ho
  have h := (locates_positionAt text o).lt_of_lt (lineStarts_sorted text)
    (locates_positionAt text o') ho
  simp only [placeOf, Prod.Lex.toLex_lt_toLex]
  omega

/-- The line grows exactly where a line ends behind the first offset and up to the second. -/
theorem line_lt_iff_isLineEnd (text : List Char) (s e : Nat) :
    (positionAt text s).line < (positionAt text e).line ↔
      ∃ o, s < o ∧ o ≤ e ∧ IsLineEnd text o := by
  rw [(locates_positionAt text s).line_lt_iff (lineStarts_sorted text) (locates_positionAt text e)]
  constructor
  · rintro ⟨o, ho, hs, he⟩
    rcases List.mem_cons.mp ho with rfl | ho
    · omega
    · obtain ⟨o', rfl, hend⟩ := mem_lineEnds.mp ho
      exact ⟨0 + o', hs, he, by simpa using hend⟩
  · rintro ⟨o, hs, he, hend⟩
    exact ⟨o, List.mem_cons_of_mem 0 (mem_lineEnds.mpr ⟨o, by omega, hend⟩), hs, he⟩

namespace Annotation

/-- Where a finding starts. -/
def startsAt (a : Annotation) : ℤ ×ₗ ℤ := toLex (a.startLine, a.startColumn)

/-- Where a finding ends. -/
def endsAt (a : Annotation) : ℤ ×ₗ ℤ := toLex (a.endLine, a.endColumn)

/-- What the message of a rule says behind the matched text. -/
def documented (r : Rule) : String :=
  match r.documentation with
  | none => ""
  | some doc => if doc.isEmpty then "" else "\n" ++ doc

theorem messageOf_eq (r : Rule) (matched : String) :
    messageOf r matched = r.name ++ "\nMatched: " ++ matched ++ documented r := by
  unfold messageOf documented
  cases r.documentation with
  | none => simp
  | some doc =>
    dsimp only
    split_ifs
    · simp
    · simp [String.append_assoc]

/-- The lines and columns of a finding of `r` name a piece of the text, which its message quotes. -/
structure SoundSpan (text : String) (r : Rule) (a : Annotation) : Prop where
  rule_eq : a.rule = r.name
  positive : 1 ≤ a.startLine ∧ 1 ≤ a.startColumn ∧ 1 ≤ a.endLine ∧ 1 ≤ a.endColumn
  ordered : a.startsAt ≤ a.endsAt
  quoted : ∃ s e : Nat,
    offsetAt? text.toList a.startLine a.startColumn = some s ∧
    offsetAt? text.toList a.endLine a.endColumn = some e ∧ s ≤ e ∧ e ≤ text.length ∧
    a.message =
      r.name ++ "\nMatched: " ++ String.ofList ((text.toList.take e).drop s) ++ documented r ∧
    (a.isMultiline = true ↔ ∃ o, s < o ∧ o ≤ e ∧ IsLineEnd text.toList o)

end Annotation

namespace Engine

theorem finding_startsAt (strict : Bool) (path text : String) (r : Rule) (m : Match) :
    (finding strict path text r m).startsAt = placeOf (positionAt text.toList m.start) := by
  rw [finding_eq]
  rfl

theorem finding_endsAt (strict : Bool) (path text : String) (r : Rule) (m : Match) :
    (finding strict path text r m).endsAt = placeOf (positionAt text.toList m.stop) := by
  rw [finding_eq]
  rfl

theorem soundSpan_finding {strict : Bool} {path text : String} {r : Rule} {m : Match}
    (h : m ∈ r.findMatches text) : (finding strict path text r m).SoundSpan text r := by
  obtain ⟨hle, hstop, htext⟩ := Pattern.mem_findMatches h
  have hs := locates_positionAt text.toList m.start
  have he := locates_positionAt text.toList m.stop
  have hordered : (finding strict path text r m).startsAt ≤ (finding strict path text r m).endsAt := by
    rw [finding_startsAt, finding_endsAt]
    exact (strictMono_placeOf text.toList).monotone hle
  rw [finding_eq] at hordered ⊢
  refine ⟨rfl, ?_, hordered, m.start, m.stop, hs.offsetAt?, he.offsetAt?, hle,
    String.length_toList ▸ hstop, ?_, ?_⟩
  · unfold Annotation.ofMatch
    dsimp only
    have := hs.line_pos
    have := hs.column_pos
    have := he.line_pos
    have := he.column_pos
    omega
  · unfold Annotation.ofMatch
    dsimp only
    rw [htext, ← Annotation.messageOf_eq]
  · rw [← line_lt_iff_isLineEnd]
    unfold Annotation.isMultiline Annotation.ofMatch
    simp

theorem findings_ordered (strict : Bool) (path text : String) (r : Rule) :
    (findings strict path text r).Pairwise fun a b =>
      a.endsAt ≤ b.startsAt ∧ a.startsAt < b.startsAt := by
  refine List.pairwise_map.mpr ((Pattern.findMatches_follows text r.compiled).imp ?_)
  rintro a b ⟨hlt, hle⟩
  rw [finding_startsAt, finding_startsAt, finding_endsAt]
  have hmono := strictMono_placeOf text.toList
  exact ⟨hmono.monotone hle, hmono hlt⟩

/-- **Every finding has a sound span**, and those of one rule stand one behind the other. -/
theorem lintText_spans_sound (e : Engine) (path text : String) :
    e.lintText path text =
      .ok ((e.ruleSet.rules.filter fun r => e.ruleSet.appliesTo r path).flatMap
        (findings e.strict (Path.normalize path) text)) ∧
    ∀ r : Rule,
      (∀ a ∈ findings e.strict (Path.normalize path) text r, a.SoundSpan text r) ∧
      (findings e.strict (Path.normalize path) text r).Pairwise fun a b =>
        a.endsAt ≤ b.startsAt ∧ a.startsAt < b.startsAt := by
  refine ⟨e.lintText_eq path text, fun r => ⟨fun a ha => ?_, findings_ordered _ _ _ r⟩⟩
  obtain ⟨m, hm, rfl⟩ := List.mem_map.mp ha
  exact soundSpan_finding hm

end Engine

end PatternLint
