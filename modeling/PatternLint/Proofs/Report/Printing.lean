import Mathlib.Tactic
import PatternLint.Proofs.Report.Commands

/-!
# Reports on a console

A report that is no table goes to the console unwrapped, but not untouched: silent characters are left
out and tabs become blanks.  JSON writes every control character as an escape, so nothing is lost there.
A workflow command shows the texts of the result with only percent signs and line ends escaped, and it is
printed as it is exactly if none of these texts holds a character that the console rewrites.
-/

namespace PatternLint

open PatternLint.Layout PatternLint.Report PatternLint.Text

/-! ### What a console rewrites -/

/-- A character that does not reach the console as it is. -/
def isRewritten (c : Char) : Bool := isSilent c || c == '\t'

theorem isRewritten_of_not_control {c : Char} (h : 32 ≤ c.toNat) : isRewritten c = false := by
  have htab : c ≠ '\t' := by
    rintro rfl
    exact absurd h (by decide)
  have hsilent : isSilent c = false := by
    simp only [isSilent, Bool.or_eq_false_iff, beq_eq_false_iff_ne]
    omega
  simp [isRewritten, hsilent, htab]

theorem toNat_of_isRewritten {c : Char} (h : isRewritten c) : c.toNat < 32 := by
  by_contra hge
  simp [isRewritten_of_not_control (not_lt.mp hge)] at h

theorem expandTabsFrom_of_notMem {s : List Char} (h : '\t' ∉ s) (pos : Nat) :
    expandTabsFrom pos s = s := by
  induction s generalizing pos with
  | nil => rfl
  | cons c s ih =>
    rw [List.mem_cons, not_or] at h
    rw [expandTabsFrom, if_neg (Ne.symm h.1), ih h.2]

theorem tab_notMem_expandTabsFrom (s : List Char) (pos : Nat) : '\t' ∉ expandTabsFrom pos s := by
  induction s generalizing pos with
  | nil => simp [expandTabsFrom]
  | cons c s ih =>
    rw [expandTabsFrom]
    split_ifs with hc
    · intro hmem
      rcases List.mem_append.mp hmem with h | h
      · exact absurd (List.eq_of_mem_replicate h) (by decide)
      · exact ih _ h
    · intro hmem
      rcases List.mem_cons.mp hmem with h | h
      · exact hc h.symm
      · exact ih _ h

/-- Expanding tabs brings in nothing but blanks. -/
theorem mem_of_mem_expandTabsFrom {c : Char} {s : List Char} {pos : Nat}
    (h : c ∈ expandTabsFrom pos s) : c ∈ s ∨ c = ' ' := by
  induction s generalizing pos with
  | nil => simp [expandTabsFrom] at h
  | cons x s ih =>
    rw [expandTabsFrom] at h
    split_ifs at h with hx
    · rcases List.mem_append.mp h with h | h
      · exact Or.inr (List.eq_of_mem_replicate h)
      · exact (ih h).imp_left (List.mem_cons_of_mem _)
    · rcases List.mem_cons.mp h with rfl | h
      · exact Or.inl List.mem_cons_self
      · exact (ih h).imp_left (List.mem_cons_of_mem _)

theorem mem_of_mem_intercalate {c sep : Char} {pieces : List (List Char)}
    (h : c ∈ List.intercalate [sep] pieces) : c = sep ∨ ∃ p ∈ pieces, c ∈ p := by
  induction pieces with
  | nil => simp at h
  | cons p pieces ih =>
    cases pieces with
    | nil => exact Or.inr ⟨p, List.mem_cons_self, by simpa using h⟩
    | cons q pieces =>
      rw [List.intercalate_cons_cons, List.mem_append, List.mem_append, List.mem_singleton] at h
      rcases h with (h | h) | h
      · exact Or.inr ⟨p, List.mem_cons_self, h⟩
      · exact Or.inl h
      · exact (ih h).imp_right fun ⟨x, hx, hc⟩ => ⟨x, List.mem_cons_of_mem _ hx, hc⟩

/-- No character that the console rewrites is ever printed. -/
theorem isRewritten_of_mem_verbatim {c : Char} {s : String}
    (h : c ∈ (Reporter.verbatim s).toList) : isRewritten c = false := by
  rw [Reporter.verbatim, String.toList_ofList] at h
  rcases mem_of_mem_intercalate h with rfl | ⟨line, hline, hc⟩
  · decide
  · obtain ⟨piece, hpiece, rfl⟩ := List.mem_map.mp hline
    have htab : c ≠ '\t' := by
      rintro rfl
      exact tab_notMem_expandTabsFrom piece 0 hc
    rcases mem_of_mem_expandTabsFrom hc with hc | rfl
    · have hvisible : c ∈ visible s.toList := mem_of_mem_splitOn hpiece hc
      have hsilent : isSilent c = false := by
        simpa using (List.mem_filter.mp hvisible).2
      simp [isRewritten, hsilent, htab]
    · decide

/-- A text is printed as it is exactly if it holds no character that the console rewrites. -/
theorem verbatim_eq_iff (s : String) :
    Reporter.verbatim s = s ↔ ∀ c ∈ s.toList, isRewritten c = false := by
  constructor
  · intro h c hc
    rw [← h] at hc
    exact isRewritten_of_mem_verbatim hc
  · intro h
    simp only [isRewritten, Bool.or_eq_false_iff, beq_eq_false_iff_ne] at h
    have hvisible : visible s.toList = s.toList := by
      refine List.filter_eq_self.mpr fun c hc => ?_
      simp [(h c hc).1]
    have hlines : (splitOn '\n' s.toList).map expandTabs = splitOn '\n' s.toList := by
      refine (List.map_congr_left fun line hline => ?_).trans (List.map_id _)
      refine expandTabsFrom_of_notMem (fun htab => ?_) 0
      exact (h '\t' (mem_of_mem_splitOn hline htab)).2 rfl
    rw [Reporter.verbatim, hvisible, hlines, intercalate_splitOn, String.ofList_toList]

/-! ### JSON -/

namespace Json

/-- Nothing stands in the text but line feeds and characters that are no control characters. -/
def Plain (s : String) : Prop := ∀ c ∈ s.toList, c = '\n' ∨ 32 ≤ c.toNat

instance : DecidablePred Plain := fun s =>
  inferInstanceAs (Decidable (∀ c ∈ s.toList, c = '\n' ∨ 32 ≤ c.toNat))

theorem Plain.append {s t : String} (hs : Plain s) (ht : Plain t) : Plain (s ++ t) := by
  intro c hc
  rw [String.toList_append, List.mem_append] at hc
  exact hc.elim (hs c) (ht c)

theorem Plain.isRewritten {s : String} (h : Plain s) : ∀ c ∈ s.toList, isRewritten c = false := by
  intro c hc
  rcases h c hc with rfl | hge
  · decide
  · exact isRewritten_of_not_control hge

theorem toNat_of_mem_toDigits {c : Char} {n : Nat} (h : c ∈ Nat.toDigits 10 n) : 32 ≤ c.toNat := by
  have hdigit := Nat.isDigit_of_mem_toDigits (by decide) (by decide) h
  simp only [Char.isDigit, Bool.and_eq_true, decide_eq_true_eq, ge_iff_le] at hdigit
  exact le_trans (by decide) (UInt32.le_iff_toNat_le.mp hdigit.1)

theorem plain_repr (n : Int) : Plain n.repr := by
  intro c hc
  rw [toList_repr] at hc
  split_ifs at hc
  · exact Or.inr (toNat_of_mem_toDigits hc)
  · rcases List.mem_cons.mp hc with rfl | hc
    · exact Or.inr (by decide)
    · exact Or.inr (toNat_of_mem_toDigits hc)

theorem toNat_of_mem_hexDigits {c : Char} {width n : Nat} (h : c ∈ hexDigits width n) :
    32 ≤ c.toNat := by
  induction width generalizing n with
  | zero => simp [hexDigits] at h
  | succ width ih =>
    rw [hexDigits, List.mem_append, List.mem_singleton] at h
    rcases h with h | rfl
    · exact ih h
    · have hlt : n % 16 < 16 := Nat.mod_lt _ (by decide)
      generalize n % 16 = d at hlt
      interval_cases d <;> decide

/-- A control character is always written as an escape. -/
theorem toNat_of_mem_escapeChar {c x : Char} (h : c ∈ escapeChar x) : 32 ≤ c.toNat := by
  have hshort : ∀ y : Char, 32 ≤ y.toNat → c ∈ ['\\', y] → 32 ≤ c.toNat := by
    intro y hy hc
    simp only [List.mem_cons, List.not_mem_nil, or_false] at hc
    rcases hc with rfl | rfl
    · decide
    · exact hy
  unfold escapeChar at h
  split_ifs at h with hquote hn hr ht hb hf hcontrol
  · refine hshort x ?_ h
    rw [Bool.or_eq_true_iff, beq_iff_eq, beq_iff_eq] at hquote
    rcases hquote with rfl | rfl <;> decide
  · exact hshort 'n' (by decide) h
  · exact hshort 'r' (by decide) h
  · exact hshort 't' (by decide) h
  · exact hshort 'b' (by decide) h
  · exact hshort 'f' (by decide) h
  · simp only [List.mem_cons] at h
    rcases h with rfl | rfl | h
    · decide
    · decide
    · exact toNat_of_mem_hexDigits h
  · rw [List.mem_singleton.mp h]
    omega

theorem plain_renderString (s : String) : Plain (renderString s) := by
  intro c hc
  rw [renderString, String.toList_ofList, List.mem_cons, List.mem_append, List.mem_singleton] at hc
  refine Or.inr ?_
  rcases hc with rfl | hc | rfl
  · decide
  · obtain ⟨x, -, hx⟩ := List.mem_flatMap.mp hc
    exact toNat_of_mem_escapeChar hx
  · decide

section Layout

variable (indent : Option Nat)

theorem plain_newline (level : Nat) : Plain (newline indent level) := by
  intro c hc
  cases indent with
  | none => simp [newline] at hc
  | some n =>
    simp only [newline, String.toList_append, String.toList_ofList, List.mem_append,
      List.mem_replicate] at hc
    rcases hc with hc | ⟨-, rfl⟩
    · exact Or.inl (by simpa using hc)
    · exact Or.inr (by decide)

theorem plain_separator (level : Nat) : Plain (separator indent level) := by
  cases indent with
  | none =>
    have hcomma : Plain ", " := by decide
    exact hcomma
  | some n => exact Plain.append (s := ",") (by decide) (plain_newline (some n) level)

mutual

/-- **A JSON text is plain**, whatever stands in the value. -/
theorem plain_renderAt (level : Nat) : ∀ v : Json, Plain (renderAt indent level v)
  | .null => by
    rw [renderAt]
    decide
  | .bool true => by
    rw [renderAt]
    decide
  | .bool false => by
    rw [renderAt]
    decide
  | .int n => by
    rw [renderAt, Int.toString_eq_repr]
    exact plain_repr n
  | .str s => by
    rw [renderAt]
    exact plain_renderString s
  | .arr [] => by
    rw [renderAt]
    decide
  | .arr (v :: vs) => by
    have hopen : Plain "[" := by decide
    have hclose : Plain "]" := by decide
    rw [renderAt]
    exact ((((hopen.append (plain_newline indent _)).append (plain_renderAt _ v)).append
      (plain_renderItems _ vs)).append (plain_newline indent _)).append hclose
  | .obj [] => by
    rw [renderAt]
    decide
  | .obj ((k, v) :: fs) => by
    have hopen : Plain "\x7b" := by decide
    have hcolon : Plain ": " := by decide
    have hclose : Plain "\x7d" := by decide
    rw [renderAt]
    exact ((((((hopen.append (plain_newline indent _)).append (plain_renderString k)).append
      hcolon).append (plain_renderAt _ v)).append (plain_renderFields _ fs)).append
      (plain_newline indent _)).append hclose

theorem plain_renderItems (level : Nat) : ∀ vs : List Json, Plain (renderItems indent level vs)
  | [] => by
    rw [renderItems]
    decide
  | v :: vs => by
    rw [renderItems]
    exact ((plain_separator indent level).append (plain_renderAt level v)).append
      (plain_renderItems level vs)

theorem plain_renderFields (level : Nat) :
    ∀ fs : List (String × Json), Plain (renderFields indent level fs)
  | [] => by
    rw [renderFields]
    decide
  | (k, v) :: fs => by
    have hcolon : Plain ": " := by decide
    rw [renderFields]
    exact ((((plain_separator indent level).append (plain_renderString k)).append hcolon).append
      (plain_renderAt level v)).append (plain_renderFields level fs)

end

end Layout

theorem verbatim_render (indent : Option Nat) (v : Json) :
    Reporter.verbatim (v.render indent) = v.render indent :=
  (verbatim_eq_iff _).mpr (plain_renderAt indent 0 v).isRewritten

end Json

/-! ### Workflow commands -/

namespace Report

/-- The characters that the console rewrites and no workflow command escapes: bell, backspace, tab,
vertical tab and form feed. -/
def bareControls : List Char := [7, 8, 9, 11, 12].map Char.ofNat

/-- The texts that a workflow report shows with nothing but its own separators escaped. -/
def commandTexts (r : LintResult) : List String :=
  r.issues.map (·.message) ++ r.annotations.flatMap fun a => [a.file, a.title, a.message]

theorem isRewritten_iff {c : Char} : isRewritten c ↔ c = '\r' ∨ c ∈ bareControls := by
  constructor
  · intro h
    have hlt := toNat_of_isRewritten h
    rw [← Char.ofNat_toNat c] at h ⊢
    generalize c.toNat = n at h hlt ⊢
    interval_cases n <;> revert h <;> decide
  · rintro (rfl | h)
    · decide
    · revert c
      decide

theorem mem_flatMap_write {codes : List Code} {c : Char} (hchar : c ∉ codes.map (·.char))
    (htext : ∀ k ∈ codes, c ∉ k.text) (s : List Char) : c ∈ s.flatMap (Code.write codes) ↔ c ∈ s := by
  constructor
  · intro hmem
    obtain ⟨x, hx, hc⟩ := List.mem_flatMap.mp hmem
    by_cases hcoded : x ∈ codes.map (·.char)
    · obtain ⟨k, hk, -, hwrite⟩ := write_eq_text hcoded
      exact absurd (hwrite ▸ hc) (htext k hk)
    · rw [write_of_notMem hcoded, List.mem_singleton] at hc
      exact hc ▸ hx
  · intro hmem
    refine List.mem_flatMap.mpr ⟨c, hmem, ?_⟩
    rw [write_of_notMem hchar]
    exact List.mem_singleton_self c

section Bare

variable {c : Char} (hc : c ∈ bareControls)

include hc

theorem notMem_of_plain {s : String} (hs : Json.Plain s) : c ∉ s.toList := by
  intro hmem
  have hrewritten := isRewritten_iff.mpr (Or.inr hc)
  simp [hs.isRewritten c hmem] at hrewritten

theorem mem_escapeData (s : String) : c ∈ (escapeData s).toList ↔ c ∈ s.toList := by
  have hfree : ∀ x ∈ bareControls,
      x ∉ dataCodes.map (·.char) ∧ ∀ k ∈ dataCodes, x ∉ k.text := by
    decide
  rw [toList_escapeData]
  exact mem_flatMap_write (hfree c hc).1 (hfree c hc).2 _

theorem mem_escapeProperty (s : String) : c ∈ (escapeProperty s).toList ↔ c ∈ s.toList := by
  have hfree : ∀ x ∈ bareControls,
      x ∉ propertyCodes.map (·.char) ∧ ∀ k ∈ propertyCodes, x ∉ k.text := by
    decide
  rw [toList_escapeProperty]
  exact mem_flatMap_write (hfree c hc).1 (hfree c hc).2 _

theorem mem_issueCommand (i : Issue) : c ∈ (issueCommand i).toList ↔ c ∈ i.message.toList := by
  have hmarks : c ∉ "::warning::".toList := notMem_of_plain hc (by decide)
  rw [issueCommand, String.toList_append, List.mem_append, mem_escapeData hc]
  exact or_iff_right hmarks

theorem mem_written (p : String × String) (hname : WorkflowCommand.IsWord p.1) :
    c ∈ (WorkflowCommand.written p).toList ↔ c ∈ p.2.toList := by
  have hletters : ∀ x ∈ bareControls, x.isAlpha = false := by decide
  have hword : c ∉ p.1.toList := hname.notMem (hletters c hc)
  have hequals : c ∉ "=".toList := notMem_of_plain hc (by decide)
  simp only [WorkflowCommand.written, String.toList_append, List.mem_append, mem_escapeProperty hc,
    hword, hequals, false_or]

/-- Only the file and the title bring a control character into the properties; the others are
numbers. -/
theorem mem_commandProperties (a : Annotation) :
    (∃ p ∈ commandProperties a, c ∈ p.2.toList) ↔ c ∈ a.file.toList ∨ c ∈ a.title.toList := by
  have hnumber : ∀ n : Int, c ∉ n.repr.toList := fun n => notMem_of_plain hc (Json.plain_repr n)
  unfold commandProperties
  split_ifs <;> simp [hnumber]

theorem mem_workflowCommand (a : Annotation) :
    c ∈ (workflowCommand a).toList ↔
      c ∈ a.file.toList ∨ c ∈ a.title.toList ∨ c ∈ a.message.toList := by
  have hmarks : c ∉ "::".toList ∧ c ∉ " ".toList ∧ c ∉ ",".toList :=
    ⟨notMem_of_plain hc (by decide), notMem_of_plain hc (by decide), notMem_of_plain hc (by decide)⟩
  have hletters : ∀ x ∈ bareControls, x.isAlpha = false := by decide
  have hname : c ∉ a.severity.name.toList :=
    (WorkflowCommand.isWord_name a.severity).notMem (hletters c hc)
  have hprops : c ∈ (joinWith "," ((commandProperties a).map WorkflowCommand.written)).toList ↔
      c ∈ a.file.toList ∨ c ∈ a.title.toList := by
    rw [mem_joinWith hmarks.2.2, ← mem_commandProperties hc]
    simp only [List.mem_map, exists_exists_and_eq_and]
    refine exists_congr fun p => and_congr_right fun hp => ?_
    exact mem_written hc p (WorkflowCommand.isWord_commandProperties a p hp)
  rw [WorkflowCommand.workflowCommand_eq]
  simp only [String.toList_append, List.mem_append, hprops, mem_escapeData hc, hmarks.1, hmarks.2.1,
    hname, false_or, or_false, or_assoc]

theorem mem_workflowCommands (r : LintResult) :
    c ∈ (workflowCommands r).toList ↔ ∃ t ∈ commandTexts r, c ∈ t.toList := by
  have hfeed : c ∉ "\n".toList := notMem_of_plain hc (by decide)
  rw [workflowCommands, mem_joinWith hfeed]
  constructor
  · rintro ⟨line, hline, hmem⟩
    rcases List.mem_append.mp hline with h | h
    · obtain ⟨i, hi, rfl⟩ := List.mem_map.mp h
      refine ⟨i.message, ?_, (mem_issueCommand hc i).mp hmem⟩
      exact List.mem_append_left _ (List.mem_map_of_mem hi)
    · obtain ⟨a, ha, rfl⟩ := List.mem_map.mp h
      have htexts : ∀ t ∈ [a.file, a.title, a.message], t ∈ commandTexts r := fun t ht =>
        List.mem_append_right _ (List.mem_flatMap.mpr ⟨a, ha, ht⟩)
      rcases (mem_workflowCommand hc a).mp hmem with h | h | h
      · exact ⟨a.file, htexts _ (by simp), h⟩
      · exact ⟨a.title, htexts _ (by simp), h⟩
      · exact ⟨a.message, htexts _ (by simp), h⟩
  · rintro ⟨t, ht, hmem⟩
    rcases List.mem_append.mp ht with h | h
    · obtain ⟨i, hi, rfl⟩ := List.mem_map.mp h
      refine ⟨issueCommand i, ?_, (mem_issueCommand hc i).mpr hmem⟩
      exact List.mem_append_left _ (List.mem_map_of_mem hi)
    · obtain ⟨a, ha, ht⟩ := List.mem_flatMap.mp h
      refine ⟨workflowCommand a, ?_, (mem_workflowCommand hc a).mpr ?_⟩
      · exact List.mem_append_right _ (List.mem_map_of_mem ha)
      · simp only [List.mem_cons, List.not_mem_nil, or_false] at ht
        rcases ht with rfl | rfl | rfl
        · exact Or.inl hmem
        · exact Or.inr (Or.inl hmem)
        · exact Or.inr (Or.inr hmem)

end Bare

/-- No return is left in a report. -/
theorem return_notMem_workflowCommands (r : LintResult) : '\r' ∉ (workflowCommands r).toList := by
  refine notMem_joinWith (by decide) fun s hs => ?_
  rcases List.mem_append.mp hs with hs | hs
  · obtain ⟨i, -, rfl⟩ := List.mem_map.mp hs
    exact notMem_issueCommand (Or.inl rfl) i
  · obtain ⟨a, -, rfl⟩ := List.mem_map.mp hs
    exact notMem_workflowCommand (Or.inl rfl) a

theorem verbatim_workflowCommands_iff (r : LintResult) :
    Reporter.verbatim (workflowCommands r) = workflowCommands r ↔
      ∀ t ∈ commandTexts r, ∀ c ∈ bareControls, c ∉ t.toList := by
  rw [verbatim_eq_iff]
  constructor
  · intro h t ht c hc hmem
    have hclean := h c ((mem_workflowCommands hc r).mpr ⟨t, ht, hmem⟩)
    have hrewritten := isRewritten_iff.mpr (Or.inr hc)
    simp [hclean] at hrewritten
  · intro h c hmem
    by_contra hne
    rcases isRewritten_iff.mp (by simpa using hne) with rfl | hc
    · exact return_notMem_workflowCommands r hmem
    · obtain ⟨t, ht, hct⟩ := (mem_workflowCommands hc r).mp hmem
      exact h t ht c hc hct

/-- On a console with any cells a report that is no table is printed line by line; without cells there is nothing. -/
theorem print_of_ne_text [Console] {reporter : Reporter} (h : reporter ≠ .text) (width : Nat) (r : LintResult) :
    reporter.print width r = if width = 0 then "" else Reporter.verbatim (reporter.render r) ++ "\n" := by
  cases reporter with
  | text => exact absurd rfl h
  | _ => rfl

theorem print_eq_render_iff [Console] {reporter : Reporter} (h : reporter ≠ .text) (width : Nat)
    (r : LintResult) :
    reporter.print width r = reporter.render r ++ "\n" ↔
      0 < width ∧ Reporter.verbatim (reporter.render r) = reporter.render r := by
  rw [print_of_ne_text h]
  by_cases hwidth : width = 0
  · have hempty : "" ≠ reporter.render r ++ "\n" := by
      intro h
      have hlength := congrArg String.length h
      rw [String.length_append] at hlength
      exact absurd hlength (Nat.succ_ne_zero _).symm
    rw [if_pos hwidth]
    exact iff_of_false hempty fun h => h.1.ne' hwidth
  · rw [if_neg hwidth, String.append_left_inj]
    exact (and_iff_right (Nat.pos_of_ne_zero hwidth)).symm

/-- **When a report is printed as it is.**  On a console with any cells the JSON report and the check run
are printed verbatim with one line feed behind them; the workflow commands are exactly if no text of the
result holds a bell, a backspace, a tab, a vertical tab or a form feed.  Where a line has no cells, none of
them is printed at all. -/
theorem printed_verbatim_iff [Console] (r : LintResult) (width : Nat) :
    (∀ indent, (Reporter.json indent).print width r = (Reporter.json indent).render r ++ "\n" ↔
        0 < width) ∧
      (∀ name, (Reporter.checkRun name).print width r = (Reporter.checkRun name).render r ++ "\n" ↔
        0 < width) ∧
      (Reporter.workflow.print width r = Reporter.workflow.render r ++ "\n" ↔
        0 < width ∧ ∀ t ∈ commandTexts r, ∀ c ∈ bareControls, c ∉ t.toList) ∧
      ∀ reporter : Reporter, reporter ≠ .text → reporter.print 0 r = "" := by
  refine ⟨fun indent => ?_, fun name => ?_, ?_, fun reporter hne => ?_⟩
  · rw [print_eq_render_iff (by simp)]
    exact and_iff_left (Json.verbatim_render indent r.toJson)
  · rw [print_eq_render_iff (by simp)]
    exact and_iff_left (Json.verbatim_render (some 2) (checkRun name r))
  · rw [print_eq_render_iff (by simp)]
    exact and_congr_right' (verbatim_workflowCommands_iff r)
  · rw [print_of_ne_text hne, if_pos rfl]

/-- One finding, whose matched text holds a tab. -/
def tabbedResult : LintResult where
  annotations :=
    [⟨"Pattern lint violation: r", "a.txt", 1, 1, 1, 4, "r\nMatched: a\tb", .error, "r"⟩]
  issues := []
  filesScanned := 1

/-- The tab is printed as a blank, but an output file gets the tab. -/
theorem tabbedResult_rewritten :
    Reporter.workflow.render tabbedResult =
        "::error file=a.txt,line=1,endLine=1,col=1,endColumn=4,title=Pattern lint violation%3A r" ++
          "::r%0AMatched: a\tb" ∧
      Reporter.workflow.print 80 tabbedResult =
        "::error file=a.txt,line=1,endLine=1,col=1,endColumn=4,title=Pattern lint violation%3A r" ++
          "::r%0AMatched: a b\n" ∧
      Reporter.workflow.print 80 tabbedResult ≠ Reporter.workflow.render tabbedResult ++ "\n" := by
  have hrender : Reporter.workflow.render tabbedResult =
      "::error file=a.txt,line=1,endLine=1,col=1,endColumn=4,title=Pattern lint violation%3A r" ++
        "::r%0AMatched: a\tb" := by
    cbv
  have hprint : Reporter.workflow.print 80 tabbedResult =
      "::error file=a.txt,line=1,endLine=1,col=1,endColumn=4,title=Pattern lint violation%3A r" ++
        "::r%0AMatched: a b\n" := by
    cbv
  refine ⟨hrender, hprint, ?_⟩
  rw [hrender, hprint]
  decide

end Report

end PatternLint
