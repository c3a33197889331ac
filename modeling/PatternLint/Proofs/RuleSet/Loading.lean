import Mathlib.Tactic
import PatternLint.Command
import PatternLint.Proofs.Text.Pieces

/-!
# When no rule set comes out of a file

Reading a rule file goes through stages, and each has failures of its own.  Those that are said to make
the file unusable are reported, and a command that needs the file is refused.  Three kinds are passed on
as they are and end the program instead (`Uncaught`): a path that holds a null character, octets that are
no UTF-8, and a value of the right form that denotes nothing.  Together with the engine giving up on a
pattern these are all.
-/

namespace PatternLint

open PatternLint.Text

/-- The failures on the way to a document that are not reported as an unusable file. -/
inductive Uncaught (v : Volume) (p : Path) : LoadFailure → Prop
  | path (h : Char.ofNat 0 ∈ p.text.toList) : Uncaught v p .nullInPath
  | encoding {content : List UInt8} {e : DecodeError} (hpath : Char.ofNat 0 ∉ p.text.toList)
      (hread : v.read p = .ok content) (h : decode content = .error e) : Uncaught v p (.encoding e)
  | value {content : List UInt8} {text : String} {f : Yaml.Fault}
      (hpath : Char.ofNat 0 ∉ p.text.toList) (hread : v.read p = .ok content)
      (htext : decode content = .ok text)
      (h : Yaml.load (String.ofList (unifyLineEnds text.toList)) = .error f) (hf : f ≠ .malformed) :
      Uncaught v p (.value f)

/-! ### Rule files -/

namespace RuleSet

theorem accessFailure_eq (p : Path) (f : AccessFault) :
    ∃ c, accessFailure p f = .document (.unusable c) := by
  cases f <;> exact ⟨_, rfl⟩

theorem documentIn_of_uncaught {v : Volume} {p : Path} {e : LoadFailure} (h : Uncaught v p e) :
    documentIn v p = .error e := by
  unfold documentIn
  cases h with
  | path h => rw [if_pos (by simpa using h)]
  | encoding hpath hread h =>
    rw [if_neg (by simpa using hpath), hread]
    dsimp only
    rw [h]
  | value hpath hread htext h hf =>
    rw [if_neg (by simpa using hpath), hread]
    dsimp only
    rw [htext]
    dsimp only
    rw [h]
    split <;> simp_all

/-- A file holds a document, is reported as unusable, or has an uncaught failure. -/
theorem documentIn_cases (v : Volume) (p : Path) :
    (∃ d, documentIn v p = .ok d) ∨ (∃ c, documentIn v p = .error (.document (.unusable c))) ∨
      ∃ e, Uncaught v p e := by
  by_cases hpath : Char.ofNat 0 ∈ p.text.toList
  · exact Or.inr (Or.inr ⟨_, .path hpath⟩)
  · unfold documentIn
    rw [if_neg (by simpa using hpath)]
    cases hread : v.read p with
    | error f =>
      obtain ⟨c, hc⟩ := accessFailure_eq p f
      exact Or.inr (Or.inl ⟨c, congrArg Except.error hc⟩)
    | ok content =>
      dsimp only
      cases htext : decode content with
      | error e => exact Or.inr (Or.inr ⟨_, .encoding hpath hread htext⟩)
      | ok text =>
        dsimp only
        cases hload : Yaml.load (String.ofList (unifyLineEnds text.toList)) with
        | ok d => exact Or.inl ⟨d, rfl⟩
        | error f =>
          by_cases hf : f = .malformed
          · subst hf
            exact Or.inr (Or.inl ⟨_, rfl⟩)
          · exact Or.inr (Or.inr ⟨_, .value hpath hread htext hload hf⟩)

theorem load_of_error {v : Volume} {path : String} {e : LoadFailure}
    (h : documentIn v (Path.ofString path) = .error e) : (load v path).value = .error e := by
  unfold load
  dsimp only
  rw [h]

theorem load_of_ok {v : Volume} {path : String} {d : Document}
    (h : documentIn v (Path.ofString path) = .ok d) :
    (load v path).value = (RuleSet.ofDocument d).value.mapError .document := by
  unfold load
  dsimp only
  rw [h]

/-- Loading gives a rule set, says that the file is unusable, gives up on a pattern, or has an
uncaught failure. -/
theorem load_cases (v : Volume) (path : String) :
    (∃ parsed, (load v path).value = .ok parsed) ∨
      (∃ c, (load v path).value = .error (.document (.unusable c))) ∨
      (∃ r source, (load v path).value = .error (.document (.engine r source))) ∨
      ∃ e, Uncaught v (Path.ofString path) e := by
  rcases documentIn_cases v (Path.ofString path) with ⟨d, hd⟩ | ⟨c, hc⟩ | ⟨e, he⟩
  · rw [load_of_ok hd]
    cases (RuleSet.ofDocument d).value with
    | ok parsed => exact Or.inl ⟨parsed, rfl⟩
    | error f =>
      cases f with
      | unusable c => exact Or.inr (Or.inl ⟨c, rfl⟩)
      | engine r source => exact Or.inr (Or.inr (Or.inl ⟨r, source, rfl⟩))
  · exact Or.inr (Or.inl ⟨c, load_of_error hc⟩)
  · exact Or.inr (Or.inr (Or.inr ⟨e, he⟩))

end RuleSet

theorem Uncaught.ne_document {v : Volume} {p : Path} {e : LoadFailure} (h : Uncaught v p e)
    (f : ReadFailure) : e ≠ .document f := by
  cases h <;> simp

/-! ### Commands -/

namespace Command

/-- The command is refused: exit code 2, an error on the console, and nothing else. -/
def Outcome.IsRefusal (o : Outcome) : Prop := o.code = 2 ∧ o.crash = none ∧ o.err ≠ ""

theorem wrapLine_ne_nil (width : Nat) (overflow : Layout.Overflow) (line : List Char) :
    Layout.wrapLine width overflow line ≠ [] := by
  unfold Layout.wrapLine
  dsimp only
  cases Layout.breaksFrom width overflow 0 0 (Layout.words (Layout.expandTabs line)) <;>
    simp [Layout.cutAt]

theorem printedMessage_ne_empty [Layout.Console] (hwidth : 0 < Layout.Console.width) (s : List Char) :
    printedMessage s ≠ "" := by
  obtain ⟨line, lines, hlines⟩ := List.exists_cons_of_ne_nil (splitOn_ne_nil '\n' (Layout.visible s))
  obtain ⟨first, rest, hfirst⟩ :=
    List.exists_cons_of_ne_nil (wrapLine_ne_nil Layout.Console.width .fold line)
  simp [printedMessage, Report.unlines, Report.printed, Layout.wrap, hwidth.ne', hlines, hfirst]

theorem isRefusal_refused [Layout.Console] (hwidth : 0 < Layout.Console.width) (v : Volume)
    (message : String) : (Outcome.refused v (errorText message)).IsRefusal :=
  ⟨rfl, rfl, printedMessage_ne_empty hwidth _⟩

section WithRules

variable [Layout.Console] {v : Volume} {file : String}

theorem withRules_unusable {c : ConfigurationError} (go : Parsed → Outcome)
    (h : (RuleSet.load v file).value = .error (.document (.unusable c))) :
    withRules v file go = .refused v (errorText c.message) := by
  unfold withRules
  rw [h]

theorem withRules_other {e : LoadFailure} (go : Parsed → Outcome)
    (h : (RuleSet.load v file).value = .error e) (hc : ∀ c, e ≠ .document (.unusable c)) :
    withRules v file go = .crashed v "" (.load e) := by
  unfold withRules
  rw [h]
  split
  · simp_all
  · rename_i c hload
    exact absurd (Except.error.inj hload) (hc c)
  · simp_all

/-- A command that goes on with a rule set ends with a failure of loading only where loading fails in a
way that is not reported. -/
theorem withRules_crash {go : Parsed → Outcome} {e : LoadFailure}
    (hgo : ∀ parsed, (go parsed).crash ≠ some (.load e))
    (h : (withRules v file go).crash = some (.load e)) :
    (RuleSet.load v file).value = .error e ∧ ∀ c, e ≠ .document (.unusable c) := by
  cases hload : (RuleSet.load v file).value with
  | ok parsed =>
    have hrun : withRules v file go = go parsed := by
      unfold withRules
      rw [hload]
    exact absurd (hrun ▸ h) (hgo parsed)
  | error f =>
    by_cases hc : ∃ c, f = .document (.unusable c)
    · obtain ⟨c, rfl⟩ := hc
      rw [withRules_unusable go hload] at h
      simp [Outcome.refused] at h
    · have hother : ∀ c, f ≠ .document (.unusable c) := fun c hfc => hc ⟨c, hfc⟩
      rw [withRules_other go hload hother] at h
      simp only [Outcome.crashed, Option.some.injEq, Crash.load.injEq] at h
      subst h
      exact ⟨rfl, hother⟩

/-- Where a file holds no document, the command is refused exactly if the failure is caught. -/
theorem isRefusal_withRules_iff (hwidth : 0 < Layout.Console.width) (go : Parsed → Outcome)
    (hdoc : ∀ d, RuleSet.documentIn v (Path.ofString file) ≠ .ok d) :
    (withRules v file go).IsRefusal ↔ ∀ e, ¬ Uncaught v (Path.ofString file) e := by
  rcases RuleSet.documentIn_cases v (Path.ofString file) with ⟨d, hd⟩ | ⟨c, hc⟩ | ⟨e, he⟩
  · exact absurd hd (hdoc d)
  · rw [withRules_unusable go (RuleSet.load_of_error hc)]
    refine ⟨fun _ e he => ?_, fun _ => isRefusal_refused hwidth v c.message⟩
    have hsame := hc.symm.trans (RuleSet.documentIn_of_uncaught he)
    exact he.ne_document _ (Except.error.inj hsame).symm
  · have hload := RuleSet.load_of_error (RuleSet.documentIn_of_uncaught he)
    rw [withRules_other go hload fun c => he.ne_document _]
    refine ⟨fun h => ?_, fun h => absurd he (h e)⟩
    simp [Outcome.IsRefusal, Outcome.crashed] at h

end WithRules

theorem verdict_crash (passed : Bool) (v : Volume) (out : String) :
    (Outcome.verdict passed v out).crash = none := by
  cases passed <;> rfl

section Crash

variable [Layout.Console]

theorem writeOut_crash (v : Volume) (what file text : String) (passed : Bool) (e : LoadFailure) :
    (writeOut v what file text passed).crash ≠ some (.load e) := by
  unfold writeOut
  dsimp only
  split
  · simp [Outcome.crashed]
  · split
    · simp [Outcome.crashed]
    · simp [verdict_crash]

theorem lint_crash [Host] {v : Volume} {s : LintSettings} {e : LoadFailure}
    (h : (lint v s).crash = some (.load e)) :
    (RuleSet.load v s.rules).value = .error e ∧ ∀ c, e ≠ .document (.unusable c) := by
  unfold lint at h
  split at h
  · simp [Outcome.refused] at h
  · refine withRules_crash (fun parsed => ?_) h
    dsimp only
    split
    · simp [Outcome.crashed]
    · split
      · simp [Outcome.refused]
      · simp [Outcome.crashed]
      · simp [Outcome.crashed]
      · unfold deliver
        split
        · exact writeOut_crash _ _ _ _ _ _
        · simp [verdict_crash]

theorem checkRules_crash {v : Volume} {file : String} {e : LoadFailure}
    (h : (checkRules v file).crash = some (.load e)) :
    (RuleSet.load v file).value = .error e ∧ ∀ c, e ≠ .document (.unusable c) := by
  refine withRules_crash (fun parsed => ?_) h
  split
  · simp [Outcome.crashed]
  · simp [verdict_crash]

theorem perform_crash [Host] {v : Volume} {task : Task} {e : LoadFailure}
    (h : (perform v task).crash = some (.load e)) :
    ∃ file, (RuleSet.load v file).value = .error e ∧ ∀ c, e ≠ .document (.unusable c) := by
  cases task with
  | lint s => exact ⟨s.rules, lint_crash h⟩
  | checkRules file => exact ⟨file, checkRules_crash h⟩
  | schema output =>
    rw [perform] at h
    unfold schema at h
    dsimp only at h
    split at h
    · exact absurd h (writeOut_crash _ _ _ _ _ _)
    · simp [Outcome.done] at h
  | reporters => simp [perform, reporters, Outcome.done] at h
  | version => simp [perform, version, Outcome.done] at h

theorem run_crash [Host] {v : Volume} {env : List (String × String)} {words : List String}
    {e : LoadFailure} (h : (run v env words).crash = some (.load e)) :
    ∃ file, (RuleSet.load v file).value = .error e ∧ ∀ c, e ≠ .document (.unusable c) := by
  let _ : Layout.Console := Layout.Console.inEnvironment env
  -- every branch but the last refuses the words or prints a text, and loads nothing
  unfold run runCommand at h
  dsimp only at h
  split_ifs at h
  · simp [Outcome.refused] at h
  · split at h
    · simp [Outcome.refused] at h
    · split at h
      · simp [Outcome.done] at h
      · simp [Outcome.refused] at h
      · split at h
        · simp [Outcome.refused] at h
        · split at h
          · simp [Outcome.refused] at h
          · split at h
            · simp [Outcome.done] at h
            · split at h
              · simp [Outcome.refused] at h
              · exact perform_crash h

end Crash

theorem isRefusal_lint_iff [Layout.Console] [Host] (hwidth : 0 < Layout.Console.width) {v : Volume}
    {s : LintSettings} (hdoc : ∀ d, RuleSet.documentIn v (Path.ofString s.rules) ≠ .ok d) :
    (lint v s).IsRefusal ↔
      (∀ e, ¬ Uncaught v (Path.ofString s.rules) e) ∨
        ∀ reporter, Reporter.named s.format ≠ .ok reporter := by
  unfold lint
  cases hformat : Reporter.named s.format with
  | error e => simpa using isRefusal_refused hwidth v e.message
  | ok reporter => simpa using isRefusal_withRules_iff hwidth _ hdoc

/-- **What can go wrong with a rule file.**  Apart from the engine giving up on a pattern, loading gives
a rule set or reports the file as unusable exactly if the failure is caught; where the file holds no
document, `check-rules` and `lint` are refused under the same condition, on every console that shows anything,
and no call of the program ends with a failure of loading for any other reason. -/
theorem rule_file_failures [Layout.Console] [Host] (v : Volume) :
    (∀ path,
      (((∃ parsed, (RuleSet.load v path).value = .ok parsed) ∨
          (∃ c, (RuleSet.load v path).value = .error (.document (.unusable c))) ∨
          ∃ r source, (RuleSet.load v path).value = .error (.document (.engine r source))) ↔
        ∀ e, ¬ Uncaught v (Path.ofString path) e) ∧
      (∀ e, Uncaught v (Path.ofString path) e → (RuleSet.load v path).value = .error e) ∧
      (0 < Layout.Console.width → (∀ d, RuleSet.documentIn v (Path.ofString path) ≠ .ok d) →
        ((perform v (.checkRules path)).IsRefusal ↔ ∀ e, ¬ Uncaught v (Path.ofString path) e) ∧
        ∀ s : LintSettings, s.rules = path →
          ((perform v (.lint s)).IsRefusal ↔
            (∀ e, ¬ Uncaught v (Path.ofString path) e) ∨
              ∀ reporter, Reporter.named s.format ≠ .ok reporter))) ∧
    ∀ env words e, (run v env words).crash = some (.load e) →
      (∃ r source, e = .document (.engine r source)) ∨ ∃ file, Uncaught v (Path.ofString file) e := by
  have huncaught : ∀ {path e}, Uncaught v (Path.ofString path) e →
      (RuleSet.load v path).value = .error e :=
    fun he => RuleSet.load_of_error (RuleSet.documentIn_of_uncaught he)
  refine ⟨fun path => ⟨⟨?_, fun hcaught => ?_⟩, fun e => huncaught, fun hwidth hdoc => ⟨?_, ?_⟩⟩, ?_⟩
  · intro h e he
    rw [huncaught he] at h
    rcases h with ⟨parsed, h⟩ | ⟨c, h⟩ | ⟨r, source, h⟩
    · simp at h
    · exact he.ne_document _ (Except.error.inj h)
    · exact he.ne_document _ (Except.error.inj h)
  · rcases RuleSet.load_cases v path with h | h | h | ⟨e, he⟩
    · exact Or.inl h
    · exact Or.inr (Or.inl h)
    · exact Or.inr (Or.inr h)
    · exact absurd he (hcaught e)
  · exact isRefusal_withRules_iff hwidth _ hdoc
  · rintro s rfl
    exact isRefusal_lint_iff hwidth hdoc
  · intro env words e hcrash
    obtain ⟨file, hload, hother⟩ := run_crash hcrash
    rcases RuleSet.load_cases v file with ⟨parsed, h⟩ | ⟨c, h⟩ | ⟨r, source, h⟩ | ⟨f, hf⟩
    · simp [hload] at h
    · exact absurd (Except.error.inj (hload.symm.trans h)) (hother c)
    · exact Or.inl ⟨r, source, Except.error.inj (hload.symm.trans h)⟩
    · obtain rfl := Except.error.inj (hload.symm.trans (huncaught hf))
      exact Or.inr ⟨file, hf⟩

/-- A volume whose rule file holds a single octet that starts no character. -/
def strayOctet : Volume :=
  ⟨["w"], [([], .directory), (["w"], .directory), (["w", "rules.yaml"], .file [0xFF])]⟩

/-- Checking that file ends the program with an uncaught failure, not with a refusal. -/
theorem strayOctet_crashes :
    (RuleSet.load strayOctet "rules.yaml").value = .error (.encoding ⟨0, 1, 0xFF, .invalidStart⟩) ∧
      (∀ d, RuleSet.documentIn strayOctet (Path.ofString "rules.yaml") ≠ .ok d) ∧
      (run strayOctet [] ["check-rules", "rules.yaml"]).code = 1 ∧
      (run strayOctet [] ["check-rules", "rules.yaml"]).crash =
        some (.load (.encoding ⟨0, 1, 0xFF, .invalidStart⟩)) := by
  have hdocument : RuleSet.documentIn strayOctet (Path.ofString "rules.yaml") =
      .error (.encoding ⟨0, 1, 0xFF, .invalidStart⟩) := rfl
  refine ⟨rfl, fun d hd => ?_, rfl, rfl⟩
  simp [hdocument] at hd

end Command

end PatternLint
