import PatternLint.Proofs.Command.Verdict
import PatternLint.Proofs.Report.Labels

/-!
# Messages on the console

Three lines of the program have a text in them that comes from outside: a warning in the report for people, a
dropped rule, and the name of the file to which a report was written.  The first two are protected and can always
be shown; the name of the file is not.  What is seen of each of them is what was meant exactly under the
conditions of `messages_seen`, on every console: whatever its width, its pictures and the tags it refuses.
-/

namespace PatternLint.Command

open PatternLint.Layout PatternLint.Report PatternLint.Text

/-! ### The lines -/

/-- An issue of a report. -/
def warningLine (message : String) : List Char :=
  labelMarkup "yellow" "Warning:" (escape message.toList)

/-- A rule that was dropped. -/
def droppedLine (message : String) : List Char :=
  labelMarkup "red" "Dropped:" (escape message.toList)

/-- The file to which a report was written. -/
def writtenLine (file : String) : List Char := labelMarkup "green" "Report written to" file.toList

theorem isLabel_warning : IsLabel "yellow" "Warning:" := by
  constructor <;> decide

theorem isLabel_dropped : IsLabel "red" "Dropped:" := by
  constructor <;> decide

theorem isLabel_written : IsLabel "green" "Report written to" := by
  constructor <;> decide

theorem writtenLine_eq (file : String) :
    ("[green]" ++ "Report" ++ " written to[/green] " ++ file).toList = writtenLine file := by
  simp [writtenLine, labelMarkup]

section Console

variable [Console]

/-- A label always comes with its text. -/
theorem plain_labelled {style label : String} (h : IsLabel style label) (message : String) :
    plain (labelMarkup style label (escape message.toList)) = .ok (labelled style label message) := by
  obtain ⟨t, ht, -⟩ := plain_escape h message.toList
  rw [labelled, ht]

/-! ### Where the lines are printed -/

/-- Lines are printed one after the other, each as it is shown. -/
theorem flatMap_printed_labelled {α : Type} {style label : String} (h : IsLabel style label)
    (message : α → String) (width : Nat) (l : List α) :
    ∃ texts : List (List Char),
      l.map (fun a => plain (labelMarkup style label (escape (message a).toList))) = texts.map .ok ∧
      l.flatMap (fun a => printed width (labelled style label (message a))) =
        texts.flatMap (printed width) := by
  refine ⟨l.map fun a => labelled style label (message a), ?_, ?_⟩
  · rw [List.map_map]
    exact List.map_congr_left fun a _ => plain_labelled h (message a)
  · rw [List.flatMap_map]

theorem textReport_warnings (width : Nat) (r : LintResult) :
    ∃ texts rest : List (List Char),
      r.issues.map (fun i => plain (warningLine i.message)) = texts.map .ok ∧
      textReport width r = unlines (texts.flatMap (printed width) ++ rest) := by
  obtain ⟨texts, htexts, hprinted⟩ :=
    flatMap_printed_labelled isLabel_warning Issue.message width r.issues
  rw [textReport, hprinted, List.append_assoc]
  exact ⟨texts, _, htexts, rfl⟩

theorem checkRules_dropped {v : Volume} {file : String} {parsed : Parsed} {title : List Char}
    (hload : (RuleSet.load v file).value = .ok parsed)
    (htitle : plain ("Rules: " ++ file).toList = .ok title) :
    ∃ texts before after : List (List Char),
      parsed.dropped.map (fun d => plain (droppedLine d.message)) = texts.map .ok ∧
      checkRules v file = .verdict parsed.dropped.isEmpty v
        (unlines (before ++ texts.flatMap (printed Console.width) ++ after)) := by
  obtain ⟨texts, htexts, hprinted⟩ :=
    flatMap_printed_labelled isLabel_dropped DroppedRule.message Console.width parsed.dropped
  unfold checkRules withRules
  rw [hload]
  dsimp only
  rw [htitle]
  dsimp only
  rw [hprinted]
  exact ⟨texts, _, _, htexts, rfl⟩

theorem lint_written [Host] {v v' : Volume} {s : LintSettings} {reporter : Reporter} {r : LintResult}
    {file : String} (hformat : Reporter.named s.format = .ok reporter) (hr : Produces v s r)
    (houtput : s.output = some file)
    (hwrite : v.write (Path.ofString file) (encode (reporter.render r)) = .ok v') :
    lint v s = match plain (writtenLine file) with
      | .ok text => .verdict r.passed v' (printedMessage text)
      | .error e => .crashed v' "" (.markup e) := by
  rw [lint_of_produces hformat hr]
  unfold deliver writeOut
  simp only [houtput, hwrite, writtenLine_eq]
  cases plain (writtenLine file) with
  | ok text => rfl
  | error e => rfl

end Console

/-! ### What is seen -/

/-- **What is seen of the messages.**  On every console warnings and dropped rules can be shown, and are seen as
they are exactly if nothing in them is left out or replaced and they do not end with a single backslash.  The name of
a file is seen as it is exactly if nothing in it is left out or replaced and there is no tag in it; only a tag keeps
it from being shown, and a closing tag does if it is the first one.  The report for people, the check of a rule set
and a lint run print these lines. -/
theorem messages_seen [Console] [Host] :
    (∀ message : String, ∃ t, plain (warningLine message) = .ok t ∧
      (visible t = ("Warning: " ++ message).toList ↔
        Unaltered Console.pictures message.toList ∧ ¬ EndsOpen message.toList)) ∧
    (∀ message : String, ∃ t, plain (droppedLine message) = .ok t ∧
      (visible t = ("Dropped: " ++ message).toList ↔
        Unaltered Console.pictures message.toList ∧ ¬ EndsOpen message.toList)) ∧
    (∀ file : String,
      ((∃ t, plain (writtenLine file) = .ok t ∧ visible t = ("Report written to " ++ file).toList) ↔
        Unaltered Console.pictures file.toList ∧ ¬ HoldsTag file.toList) ∧
      (¬ HoldsTag file.toList → ∃ t, plain (writtenLine file) = .ok t) ∧
      ∀ before name after, file.toList = before ++ (bracketed ('/' :: name) ++ after) →
        IsTag ('/' :: name) → ¬ HoldsTag before → before.getLast? ≠ some '\\' →
        ∃ e, plain (writtenLine file) = .error e) ∧
    (∀ width r, ∃ texts rest : List (List Char),
      r.issues.map (fun i => plain (warningLine i.message)) = texts.map .ok ∧
      textReport width r = unlines (texts.flatMap (printed width) ++ rest)) ∧
    (∀ v file parsed title, (RuleSet.load v file).value = .ok parsed →
      plain ("Rules: " ++ file).toList = .ok title →
      ∃ texts before after : List (List Char),
        parsed.dropped.map (fun d => plain (droppedLine d.message)) = texts.map .ok ∧
        checkRules v file = .verdict parsed.dropped.isEmpty v
          (unlines (before ++ texts.flatMap (printed Console.width) ++ after))) ∧
    (∀ v v' s reporter r file, Reporter.named s.format = .ok reporter → Produces v s r →
      s.output = some file →
      v.write (Path.ofString file) (encode (reporter.render r)) = .ok v' →
      lint v s = match plain (writtenLine file) with
        | .ok text => .verdict r.passed v' (printedMessage text)
        | .error e => .crashed v' "" (.markup e)) := by
  refine ⟨fun message => ?_, fun message => ?_, fun file => ⟨?_, fun hnone => ?_, ?_⟩,
    textReport_warnings, fun v file parsed title => checkRules_dropped,
    fun v v' s reporter r file => lint_written⟩
  · have hline : ("Warning: " ++ message).toList = "Warning:".toList ++ ' ' :: message.toList := by
      simp
    rw [hline]
    exact plain_escape isLabel_warning message.toList
  · have hline : ("Dropped: " ++ message).toList = "Dropped:".toList ++ ' ' :: message.toList := by
      simp
    rw [hline]
    exact plain_escape isLabel_dropped message.toList
  · have hline : ("Report written to " ++ file).toList =
        "Report written to".toList ++ ' ' :: file.toList := by
      simp
    rw [hline]
    exact plain_unprotected_iff isLabel_written file.toList
  · obtain ⟨t, ht, -⟩ := plain_untagged isLabel_written hnone
    exact ⟨t, ht⟩
  · intro before name after hfile hname hnone hlast
    rw [writtenLine, hfile]
    exact plain_closing isLabel_written hnone hlast hname after

/-- On the standard console tags of every kind in a message are seen, and nothing in it is a code or dropped. -/
theorem taggedMessage_seen :
    plain (warningLine "[bold]x[/] \\[red] :[") = .ok "Warning: [bold]x[/] \\[red] :[".toList ∧
      Unaltered Console.pictures "[bold]x[/] \\[red] :[".toList := by
  have hplain : plain (warningLine "[bold]x[/] \\[red] :[") =
      .ok "Warning: [bold]x[/] \\[red] :[".toList := by
    decide +kernel
  obtain ⟨t, ht, hseen⟩ := messages_seen.1 "[bold]x[/] \\[red] :["
  obtain rfl := Except.ok.inj (hplain.symm.trans ht)
  exact ⟨hplain, (hseen.mp (by decide)).1⟩

example : plain (writtenLine "[b]x[/bold]") = .ok "Report written to x".toList ∧
    plain (writtenLine "[rgb(,,)]x") = .error (.notNumber "") := by
  decide +kernel

/-- The markup that ended the program. -/
def Crash.markup? : Crash → Option MarkupError
  | .markup e => some e
  | _ => none

/-- A tag in the name of the output file is not seen, or ends the program after the file was written; of a
protected text a picture's code, a backslash in front of a bracket and the single backslash at the end are not seen
as they are. -/
theorem taggedName_misread :
    (runCommand oneMatch [] .lint
      ["a.txt", "-r", "rules.json", "--format", "json", "-o", "out[b].json"]).out =
        "Report written to out.json\n" ∧
      ((runCommand (oneMatch.put ["w", "["] .directory) [] .lint
        ["a.txt", "-r", "rules.json", "--format", "json", "-o", "[/b].json"]).crash.bind Crash.markup?) =
          some (.unmatched "/b" 33) ∧
      plain (warningLine ":bug:") = .ok "Warning: 🐛".toList ∧
      plain (droppedLine "\\[") = .ok "Dropped: [".toList ∧
      plain (droppedLine "\\") = .ok "Dropped: \\\\".toList := by
  decide +kernel

end PatternLint.Command
