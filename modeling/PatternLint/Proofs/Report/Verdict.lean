import PatternLint.Proofs.Layout.Wrap
import PatternLint.Proofs.Lint.Counts
import PatternLint.Proofs.Report.Commands
import PatternLint.Proofs.Report.Payloads

/-!
# What reports say about a verdict

Every report computes the verdict and the counts of a result for itself.  `Tells` says what a reader finds
in the text of a report, read as the format says: an object by its names, lines by their ends, and a
report for people by its last word.  All reports of one result tell the same verdict (`tells_print`,
`tells_render`), on the console and in a file.
-/

namespace PatternLint

open PatternLint.Layout PatternLint.Report PatternLint.Text

/-! ### Reading an object -/

namespace Json

/-- The value behind names, each inside the value of the one before. -/
def at? : Json → List String → Option Json
  | v, [] => some v
  | .obj fields, name :: names => (fields.lookup name).bind (at? · names)
  | _, _ :: _ => none

/-- A line end behind a value does not matter. -/
theorem parse_append_newline (indent : Option Nat) {v : Json} (h : v.DistinctNames) :
    parse (v.render indent ++ "\n") = some v := by
  have hstops : Stops ['\n'] := stops_cons (by decide) []
  have htokens : tokens (v.render indent ++ "\n").toList = tokens (v.render indent).toList := by
    have hwith := tokens_renderAt indent 0 v hstops
    have hwithout := tokens_renderAt indent 0 v stops_nil
    rw [tokens_blank (by decide)] at hwith
    rw [List.append_nil] at hwithout
    rw [String.toList_append]
    exact hwith.trans hwithout.symm
  rw [← parse_render indent h, parse, parse, htokens]

end Json

namespace LintResult

theorem passed_iff (r : LintResult) : r.passed = true ↔ ∀ a ∈ r.annotations, a.severity ≠ .error := by
  have hverdict : r.passed = true ↔ r.verdict = .passing := by simp [passed]
  rw [hverdict, verdict_eq_passing_iff, errorCount, List.countP_eq_zero]
  unfold Annotation.isError
  simp

/-- The exit code that stands for the verdict. -/
def exitCode (r : LintResult) : Nat := if r.passed then 0 else 1

theorem exitCode_eq_one_iff (r : LintResult) : r.exitCode = 1 ↔ r.passed = false := by
  unfold exitCode
  cases r.passed <;> simp

theorem exitCode_eq_zero_iff (r : LintResult) : r.exitCode = 0 ↔ r.passed = true := by
  unfold exitCode
  cases r.passed <;> simp

end LintResult

namespace Report

/-! ### The last word of the report for people -/

/-- A word of visible ASCII characters. -/
def Graphic (w : List Char) : Prop := w ≠ [] ∧ ∀ c ∈ w, 33 ≤ c.toNat ∧ c.toNat ≤ 126

theorem Graphic.isWord {w : List Char} (h : Graphic w) : IsWord w := by
  refine ⟨h.1, fun c hc => ?_⟩
  obtain ⟨hlow, hhigh⟩ := h.2 c hc
  simp only [Blank, isBlank, Bool.or_eq_false_iff, Bool.and_eq_false_iff, decide_eq_false_iff_not,
    beq_eq_false_iff_ne]
  omega

theorem graphic_toString (n : Nat) : Graphic (toString n).toList := by
  have hdigits : (toString n).toList = Nat.toDigits 10 n := by
    change (Nat.repr n).toList = _
    simp [Nat.repr]
  rw [hdigits]
  refine ⟨Nat.toDigits_ne_nil, fun c hc => ?_⟩
  have hdigit := Nat.isDigit_of_mem_toDigits (by decide) (by decide) hc
  simp only [Char.isDigit, Bool.and_eq_true, decide_eq_true_eq, ge_iff_le] at hdigit
  have hlow : 48 ≤ c.toNat := UInt32.le_iff_toNat_le.mp hdigit.1
  have hhigh : c.toNat ≤ 57 := UInt32.le_iff_toNat_le.mp hdigit.2
  omega

/-- The word that ends the report for people. -/
def status (r : LintResult) : String := if r.passed then "PASSED" else "FAILED"

/-- The words in front of the status. -/
def summaryWords (r : LintResult) : List String :=
  ["Summary:", toString r.errorCount, "error(s),", toString r.warningCount, "warning(s)", "in",
    toString r.filesScanned, "file(s)", "-"]

theorem summaryLine_eq (r : LintResult) :
    (summaryLine r).toList =
      (spaced ((summaryWords r).map String.toList)).flatten ++ (status r).toList := by
  simp [summaryLine, summaryWords, spaced, status]

theorem graphic_status (r : LintResult) : Graphic (status r).toList := by
  unfold status Graphic
  split_ifs <;> decide

theorem graphic_summaryWords (r : LintResult) :
    ∀ w ∈ (summaryWords r).map String.toList, Graphic w := by
  have hfixed : ∀ w ∈ ["Summary:", "error(s),", "warning(s)", "in", "file(s)", "-"],
      Graphic w.toList := by
    unfold Graphic
    decide
  intro w hw
  obtain ⟨x, hx, rfl⟩ := List.mem_map.mp hw
  simp only [summaryWords, List.mem_cons, List.not_mem_nil, or_false] at hx
  rcases hx with rfl | rfl | rfl | rfl | rfl | rfl | rfl | rfl | rfl
  case inr.inl => exact graphic_toString _
  case inr.inr.inr.inl => exact graphic_toString _
  case inr.inr.inr.inr.inr.inr.inl => exact graphic_toString _
  all_goals exact hfixed _ (by decide)

theorem toNat_of_mem_summaryLine {r : LintResult} {c : Char} (h : c ∈ (summaryLine r).toList) :
    32 ≤ c.toNat := by
  rw [summaryLine_eq] at h
  rcases List.mem_append.mp h with h | h
  · obtain ⟨x, hx, hc⟩ := List.mem_flatten.mp h
    obtain ⟨w, hw, rfl⟩ := List.mem_map.mp hx
    rcases List.mem_append.mp hc with hc | hc
    · have := ((graphic_summaryWords r w hw).2 c hc).1
      omega
    · obtain rfl := List.mem_singleton.mp hc
      decide
  · have := ((graphic_status r).2 c h).1
    omega

/-- The summary is the last thing printed, and its last piece ends with the status. -/
theorem getLast?_printed_summary {width : Nat} (hwidth : 6 ≤ width) (r : LintResult) :
    ∃ before, (printed width ('\n' :: (summaryLine r).toList)).getLast? =
      some (before ++ (status r).toList) := by
  have hsilent : ∀ c ∈ (summaryLine r).toList, isSilent c = false := fun c hc => by
    have hrewritten := isRewritten_of_not_control (toNat_of_mem_summaryLine hc)
    exact (Bool.or_eq_false_iff.mp hrewritten).1
  have hvisible : visible ('\n' :: (summaryLine r).toList) = '\n' :: (summaryLine r).toList := by
    rw [visible, List.filter_cons_of_pos (by decide),
      List.filter_eq_self.mpr fun c hc => by simp [hsilent c hc]]
  have hnewline : '\n' ∉ (summaryLine r).toList := fun h =>
    absurd (toNat_of_mem_summaryLine h) (by decide)
  have hfits : cells (status r).toList ≤ width := by
    refine le_trans (le_of_eq ?_) hwidth
    unfold status
    split_ifs <;> decide
  have hsplit : splitOn '\n' ('\n' :: (summaryLine r).toList) = [[], (summaryLine r).toList] := by
    rw [splitOn, if_pos rfl, splitOn_of_notMem hnewline]
  obtain ⟨before, hlast⟩ := getLast?_wrapLine
    (fun w hw => (graphic_summaryWords r w hw).isWord) (graphic_status r).isWord hfits
  refine ⟨before, ?_⟩
  rw [printed, if_neg (by omega), wrap, hvisible, hsplit, List.flatMap_cons, List.flatMap_cons, List.flatMap_nil,
    List.append_nil, summaryLine_eq, List.getLast?_append, hlast]
  rfl

theorem suffix_unlines {lines : List (List Char)} {before w : List Char}
    (h : lines.getLast? = some (before ++ w)) : w ++ ['\n'] <:+ (unlines lines).toList := by
  obtain ⟨front, rfl⟩ := List.getLast?_eq_some_iff.mp h
  refine ⟨(front.flatMap fun l => l ++ ['\n']) ++ before, ?_⟩
  simp [unlines]

section Text

variable [Console]

theorem status_suffix {width : Nat} (hwidth : 6 ≤ width) (r : LintResult) :
    (status r).toList ++ ['\n'] <:+ (textReport width r).toList := by
  obtain ⟨before, hlast⟩ := getLast?_printed_summary hwidth r
  unfold textReport
  apply suffix_unlines
  rw [List.getLast?_append, hlast]
  rfl

/-- Of the texts as long as the status, only the status ends the report. -/
theorem suffix_status_iff {width : Nat} (hwidth : 6 ≤ width) (r : LintResult) (w : String)
    (hlength : w.toList.length = (status r).toList.length) :
    w.toList ++ ['\n'] <:+ (textReport width r).toList ↔ w = status r := by
  refine ⟨fun h => ?_, fun h => h ▸ status_suffix hwidth r⟩
  have hsame := List.suffix_of_suffix_length_le h (status_suffix hwidth r) (by simp [hlength])
  have heq := hsame.eq_of_length (by simp [hlength])
  rw [List.append_left_inj] at heq
  exact String.toList_inj.mp heq

end Text

theorem length_status (r : LintResult) : (status r).toList.length = 6 := by
  unfold status
  split_ifs <;> rfl

theorem status_eq_failed_iff (r : LintResult) : "FAILED" = status r ↔ r.passed = false := by
  unfold status
  cases r.passed <;> simp

theorem status_eq_passed_iff (r : LintResult) : "PASSED" = status r ↔ r.passed = true := by
  unfold status
  cases r.passed <;> simp

/-! ### The check run -/

theorem conclusion_eq_failure_iff (r : LintResult) : conclusion r = "failure" ↔ r.passed = false := by
  unfold conclusion
  cases r.passed with
  | false => simp
  | true =>
    simp only [Bool.not_true, Bool.false_eq_true, if_false]
    split_ifs <;> decide

theorem conclusion_eq_success_iff (r : LintResult) :
    conclusion r = "success" ↔ r.annotations = [] := by
  unfold conclusion
  by_cases hnone : r.annotations = []
  · have hpassed : r.passed = true := r.passed_iff.mpr (by simp [hnone])
    simp [hpassed, hnone]
  · have hsome : r.annotations.isEmpty = false := by simpa using hnone
    rw [hsome]
    cases r.passed <;> simp [hnone]

/-- What is said about annotations that are not included. -/
def notice (r : LintResult) : String :=
  toString (r.annotations.length - 50) ++ " more annotation(s) not shown."

theorem splitOn_joinWith_cons {x : String} (hx : '\n' ∉ x.toList) (y : String) (ys : List String) :
    splitOn '\n' (joinWith "\n" (x :: y :: ys)).toList =
      x.toList :: splitOn '\n' (joinWith "\n" (y :: ys)).toList := by
  rw [joinWith, String.toList_append, String.toList_append, List.append_assoc,
    show "\n".toList = ['\n'] from rfl, List.singleton_append, splitOn_append hx]
  simp

/-- The first line of texts that are joined starts as the first text does. -/
theorem head?_splitOn_joinWith {x : String} {c : Char} {rest : List Char} (hx : x.toList = c :: rest)
    (hc : c ≠ '\n') (xs : List String) :
    ∃ line, (splitOn '\n' (joinWith "\n" (x :: xs)).toList).head? = some (c :: line) := by
  obtain ⟨more, hmore⟩ : ∃ more, (joinWith "\n" (x :: xs)).toList = c :: more := by
    cases xs with
    | nil => exact ⟨rest, hx⟩
    | cons y ys =>
      rw [show joinWith "\n" (x :: y :: ys) = x ++ "\n" ++ joinWith "\n" (y :: ys) from rfl,
        String.toList_append, String.toList_append, hx]
      exact ⟨_, rfl⟩
  rw [hmore, splitOn, if_neg hc]
  cases splitOn '\n' more with
  | nil => exact ⟨[], rfl⟩
  | cons line lines => exact ⟨line, rfl⟩

/-- The first line of the text. -/
def countsLine (r : LintResult) : String :=
  toString r.errorCount ++ " error(s) and " ++ toString r.warningCount ++ " warning(s) in " ++
    toString r.filesScanned ++ " file(s)."

theorem checkLines_eq (r : LintResult) :
    checkLines r = countsLine r ::
      ((if 50 < r.annotations.length then [notice r] else []) ++ r.issues.map Issue.line) := by
  have hmore : 0 < r.annotations.length - maxAnnotations ↔ 50 < r.annotations.length := by
    rw [maxAnnotations]
    omega
  simp only [checkLines, hmore]
  rfl

theorem newline_notMem_toString (n : Nat) : '\n' ∉ (toString n).toList := fun h =>
  absurd ((graphic_toString n).2 _ h).1 (by decide)

theorem newline_notMem_countsLine (r : LintResult) : '\n' ∉ (countsLine r).toList := by
  simp only [countsLine, String.toList_append, List.mem_append, not_or]
  refine ⟨⟨⟨⟨⟨?_, by decide⟩, ?_⟩, by decide⟩, ?_⟩, by decide⟩
  all_goals exact newline_notMem_toString _

theorem newline_notMem_notice (r : LintResult) : '\n' ∉ (notice r).toList := by
  rw [notice, String.toList_append, List.mem_append, not_or]
  exact ⟨newline_notMem_toString _, by decide⟩

/-- The notice is the second line of the text exactly if there are more than fifty annotations. -/
theorem notice_iff (r : LintResult) :
    (splitOn '\n' (joinWith "\n" (checkLines r)).toList)[1]? = some (notice r).toList ↔
      50 < r.annotations.length := by
  rw [checkLines_eq]
  by_cases hmany : 50 < r.annotations.length
  · rw [if_pos hmany, List.singleton_append, splitOn_joinWith_cons (newline_notMem_countsLine r)]
    refine ⟨fun _ => hmany, fun _ => ?_⟩
    cases r.issues.map Issue.line with
    | nil => simp [joinWith, splitOn_of_notMem (newline_notMem_notice r)]
    | cons y ys => simp [splitOn_joinWith_cons (newline_notMem_notice r)]
  · rw [if_neg hmany, List.nil_append]
    refine ⟨fun h => absurd h ?_, fun h => absurd h hmany⟩
    cases hissues : r.issues with
    | nil => simp [joinWith, splitOn_of_notMem (newline_notMem_countsLine r)]
    | cons i issues =>
      -- an issue starts with a bracket, the notice with a digit
      have hbracket : i.line.toList = '[' :: (i.kind.name ++ "] " ++ i.message).toList := by
        simp [Issue.line]
      obtain ⟨line, hline⟩ := head?_splitOn_joinWith hbracket (by decide) (issues.map Issue.line)
      rw [List.map_cons, splitOn_joinWith_cons (newline_notMem_countsLine r),
        List.getElem?_cons_succ, ← List.head?_eq_getElem?, hline]
      have hnone : r.annotations.length - 50 = 0 := by omega
      rw [notice, hnone]
      intro hsame
      have hhead := (List.cons.inj (Option.some.inj hsame)).1
      revert hhead
      decide

/-! ### What the texts say -/

/-- What a reader finds in the text of a report on the result `r`, where `code` is the exit code of the
run.  A list of workflow commands says nothing about the run as a whole. -/
def Tells (r : LintResult) (code : Nat) (text : String) : Reporter → Prop
  | .text =>
    ("FAILED\n".toList <:+ text.toList ↔ code = 1) ∧ ("PASSED\n".toList <:+ text.toList ↔ code = 0)
  | .json _ =>
    ∃ j, Json.parse text = some j ∧
      (j.at? ["verdict"] = some (.str "failing") ↔ code = 1) ∧
      ∃ errors warnings items,
        j.at? ["summary", "errors"] = some (.int errors) ∧
        j.at? ["summary", "warnings"] = some (.int warnings) ∧
        j.at? ["annotations"] = some (.arr items) ∧
        items = r.annotations.map Annotation.toJson ∧
        errors + warnings = items.length
  | .checkRun _ =>
    ∃ j, Json.parse text = some j ∧
      (j.at? ["conclusion"] = some (.str "failure") ↔ code = 1) ∧
      (j.at? ["conclusion"] = some (.str "success") ↔ r.annotations = []) ∧
      j.at? ["output", "annotations"] =
        some (.arr ((r.annotations.take (min 50 r.annotations.length)).map checkAnnotation)) ∧
      ∃ body, j.at? ["output", "text"] = some (.str body) ∧
        ((splitOn '\n' body.toList)[1]? = some (notice r).toList ↔ 50 < r.annotations.length)
  | .workflow => True

theorem tells_text [Console] {width : Nat} (hwidth : 6 ≤ width) (r : LintResult) :
    Tells r r.exitCode (textReport width r) .text := by
  refine ⟨?_, ?_⟩
  · rw [r.exitCode_eq_one_iff, ← status_eq_failed_iff]
    exact suffix_status_iff hwidth r "FAILED" (length_status r).symm
  · rw [r.exitCode_eq_zero_iff, ← status_eq_passed_iff]
    exact suffix_status_iff hwidth r "PASSED" (length_status r).symm

theorem tells_json {text : String} (indent : Option Nat) {r : LintResult}
    (hparse : Json.parse text = some r.toJson) : Tells r r.exitCode text (.json indent) := by
  refine ⟨r.toJson, hparse, ?_, r.errorCount, r.warningCount, _, rfl, rfl, rfl, rfl, ?_⟩
  · rw [r.exitCode_eq_one_iff, LintResult.passed]
    change some (Json.str r.verdict.name) = _ ↔ _
    cases r.verdict <;> simp [Verdict.name]
  · rw [List.length_map, ← r.errorCount_add_warningCount]
    push_cast
    rfl

theorem tells_checkRun {text name : String} {r : LintResult}
    (hparse : Json.parse text = some (checkRun name r)) :
    Tells r r.exitCode text (.checkRun name) := by
  refine ⟨checkRun name r, hparse, ?_, ?_, ?_, _, rfl, notice_iff r⟩
  · rw [r.exitCode_eq_one_iff, ← conclusion_eq_failure_iff]
    change some (Json.str (conclusion r)) = _ ↔ _
    simp
  · rw [← conclusion_eq_success_iff]
    change some (Json.str (conclusion r)) = _ ↔ _
    simp
  · change some (Json.arr ((r.annotations.take 50).map checkAnnotation)) = _
    simp

/-- The cells that a report needs on a console: the status in the report for people is not to be broken, and where
there are none nothing is printed. -/
def room : Reporter → Nat
  | .text => 6
  | _ => 1

/-- What is printed on a console that has room for it tells the verdict. -/
theorem tells_print [Console] {width : Nat} (reporter : Reporter) (hwidth : room reporter ≤ width)
    (r : LintResult) : Tells r r.exitCode (reporter.print width r) reporter := by
  cases reporter with
  | text => exact tells_text hwidth r
  | json indent =>
    refine tells_json indent ?_
    rw [print_of_ne_text (by simp), if_neg (Nat.pos_iff_ne_zero.mp hwidth)]
    change Json.parse (Reporter.verbatim (r.toJson.render indent) ++ "\n") = _
    rw [Json.verbatim_render]
    exact Json.parse_append_newline indent r.distinctNames_toJson
  | checkRun name =>
    refine tells_checkRun ?_
    rw [print_of_ne_text (by simp), if_neg (Nat.pos_iff_ne_zero.mp hwidth)]
    change Json.parse (Reporter.verbatim ((checkRun name r).render (some 2)) ++ "\n") = _
    rw [Json.verbatim_render]
    exact Json.parse_append_newline (some 2) (distinctNames_checkRun name r)
  | workflow => trivial

/-- So does the complete report. -/
theorem tells_render [Console] (reporter : Reporter) (r : LintResult) :
    Tells r r.exitCode (reporter.render r) reporter := by
  cases reporter with
  | text => exact tells_text (by decide) r
  | json indent => exact tells_json indent (Json.parse_render indent r.distinctNames_toJson)
  | checkRun name => exact tells_checkRun (Json.parse_render (some 2) (distinctNames_checkRun name r))
  | workflow => trivial

end Report

end PatternLint
