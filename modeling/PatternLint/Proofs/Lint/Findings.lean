import Mathlib.Data.List.Basic
import Mathlib.Tactic
import PatternLint.Lint.Engine
import PatternLint.Proofs.Pattern.Scan
import PatternLint.Proofs.Position
import PatternLint.Proofs.Scope

/-!
# The findings of a run

`Engine.lintRules` hands a table of line starts from rule to rule, tests most scopes only once and
works on the normalized path.  None of this shows: every offset of a match lies in its text, so each
look-up succeeds and gives the position that walking over the text gives (`annotate_eq`), and the
rules that are tried are those that apply to the path (`lintText_eq`).

The jobs of a run may finish in any order.  Each outcome goes to its own place, so the run ends with
the outcomes in the order of the jobs (`gather_eq`, `runInOrder_eq`), and `run_eq` says what it
reports for files whose texts are at hand.
-/

namespace PatternLint

theorem mapM_eq_ok {α β ε : Type} {f : α → Except ε β} {g : α → β} {l : List α}
    (h : ∀ x ∈ l, f x = .ok (g x)) : l.mapM f = .ok (l.map g) := by
  induction l with
  | nil => rfl
  | cons x l ih =>
    rw [List.mapM_cons, h x (by simp), ih (fun y hy => h y (by simp [hy]))]
    rfl

namespace Engine

/-! ### One file -/

/-- The finding of a match, with the positions that walking over the text gives. -/
def finding (strict : Bool) (path text : String) (r : Rule) (m : Match) : Annotation :=
  let a := Annotation.ofMatch path r m (positionAt text.toList m.start) (positionAt text.toList m.stop)
  if strict then a.promote else a

/-- A strict run changes the severity of a finding and no other field. -/
theorem finding_eq (strict : Bool) (path text : String) (r : Rule) (m : Match) :
    finding strict path text r m =
      { Annotation.ofMatch path r m (positionAt text.toList m.start) (positionAt text.toList m.stop)
        with severity := if strict then .error else r.severity } := by
  unfold finding
  cases strict <;> rfl

/-- The findings of one rule in a text. -/
def findings (strict : Bool) (path text : String) (r : Rule) : List Annotation :=
  (r.findMatches text).map (finding strict path text r)

/-- The findings of all rules that apply to a file. -/
def findingsIn (e : Engine) (path text : String) : List Annotation :=
  (e.ruleSet.rules.filter fun r => e.ruleSet.appliesTo r path).flatMap
    (findings e.strict (Path.normalize path) text)

theorem promote_of_error {a : Annotation} (h : a.severity ≠ .warning) : a.promote = a := by
  obtain ⟨title, file, l1, l2, c1, c2, message, severity, rule⟩ := a
  cases severity with
  | warning => exact absurd rfl h
  | error => rfl

/-- Both ends of a match are found in the table, and the strict rule only touches warnings. -/
theorem annotate_eq {strict : Bool} {path text : String} {r : Rule} {m : Match}
    (h : m ∈ r.findMatches text) :
    annotate strict path (LineIndex.ofText text.toList) r m = .ok (finding strict path text r m) := by
  obtain ⟨hle, hstop, -⟩ := Pattern.mem_findMatches h
  unfold annotate finding
  rw [LineIndex.position_eq (hle.trans hstop), LineIndex.position_eq hstop]
  set a := Annotation.ofMatch path r m (positionAt text.toList m.start)
    (positionAt text.toList m.stop) with ha
  change Except.ok (if strict && a.severity == .warning then a.promote else a) = _
  cases strict with
  | false => rfl
  | true =>
    by_cases hw : a.severity = .warning
    · simp [hw]
    · simp [hw, promote_of_error hw]

/-- The rules that pass, each with all of its findings; `table` is not made yet or right. -/
theorem lintRules_eq {strict : Bool} {path text : String} {globally : Bool} (rules : List Rule)
    {table : Option LineIndex} (ht : ∀ index ∈ table, index = LineIndex.ofText text.toList) :
    lintRules strict path text globally table rules =
      .ok ((rules.filter fun r => if r.scope.isSet then r.scope.admits path else globally).flatMap
        (findings strict path text)) := by
  induction rules generalizing table with
  | nil => rfl
  | cons r rules ih =>
    rw [lintRules, List.filter_cons]
    by_cases hpass : (if r.scope.isSet then r.scope.admits path else globally) = true
    · rw [if_pos hpass, if_pos hpass, List.flatMap_cons, findings]
      cases hm : r.findMatches text with
      | nil => exact ih ht
      | cons first more =>
        have hindex : table.getD (LineIndex.ofText text.toList) = LineIndex.ofText text.toList := by
          cases table with
          | none => rfl
          | some index => exact ht index rfl
        have hfound : (first :: more).mapM (annotate strict path (LineIndex.ofText text.toList) r) =
            .ok ((first :: more).map (finding strict path text r)) :=
          mapM_eq_ok fun m hmem => annotate_eq (by rw [hm]; exact hmem)
        dsimp only
        rw [hindex, hfound, ih (by simp)]
        rfl
    · rw [if_neg hpass, if_neg hpass]
      exact ih ht

theorem lintText_eq (e : Engine) (path text : String) :
    e.lintText path text = .ok (e.findingsIn path text) := by
  unfold lintText findingsIn
  rw [lintRules_eq _ (by simp)]
  simp only [Scope.admits_normalize]
  rfl

theorem findingsIn_normalize (e : Engine) (path text : String) :
    e.findingsIn (Path.normalize path) text = e.findingsIn path text := by
  unfold findingsIn
  simp only [RuleSet.appliesTo_normalize, Path.normalize_normalize]

/-! ### All jobs, in any order -/

/-- What comes of a job. -/
def outcomeOf (e : Engine) (job : Job) : FileOutcome :=
  match job.text with
  | .error reason => ⟨[], some ⟨job.path, reason⟩⟩
  | .ok text => ⟨e.findingsIn job.path text, none⟩

theorem evaluate_eq (e : Engine) (job : Job) : e.evaluate job = .ok (e.outcomeOf job) := by
  unfold evaluate outcomeOf
  cases job.text with
  | error reason => rfl
  | ok text =>
    dsimp only
    rw [lintText_eq]
    rfl

/-- Each job that finishes fills its own place and leaves all others as they are. -/
theorem gather_eq (e : Engine) (jobs : List Job) (order : List Nat) (outcomes : List FileOutcome) :
    ∃ out, e.gather jobs order outcomes = .ok out ∧ out.length = outcomes.length ∧
      ∀ i job, jobs[i]? = some job → i < outcomes.length →
        out[i]? = if i ∈ order then some (e.outcomeOf job) else outcomes[i]? := by
  induction order generalizing outcomes with
  | nil => exact ⟨outcomes, rfl, rfl, fun i job _ _ => by simp⟩
  | cons i order ih =>
    cases hi : jobs[i]? with
    | none =>
      obtain ⟨out, hout, hlen, hget⟩ := ih outcomes
      refine ⟨out, by rw [gather, hi]; exact hout, hlen, fun j job hj hlt => ?_⟩
      have hne : j ≠ i := by rintro rfl; rw [hi] at hj; simp at hj
      simp [hget j job hj hlt, hne]
    | some done =>
      obtain ⟨out, hout, hlen, hget⟩ := ih (outcomes.set i (e.outcomeOf done))
      refine ⟨out, ?_, by simpa using hlen, fun j job hj hlt => ?_⟩
      · rw [gather, hi]
        dsimp only
        rw [evaluate_eq]
        exact hout
      · rw [hget j job hj (by simpa using hlt), List.getElem?_set]
        by_cases hji : j = i
        · subst hji
          obtain rfl : done = job := Option.some.inj (hi.symm.trans hj)
          simp [hlt]
        · simp [hji, Ne.symm hji]

/-- What a run over jobs reports. -/
def reportOf (e : Engine) (jobs : List Job) : Except RunFailure LintResult :=
  let outcomes := jobs.map e.outcomeOf
  let errors := outcomes.filterMap (·.error)
  if e.failOnUnreadable && !errors.isEmpty then .error (.unreadable errors)
  else .ok ⟨outcomes.flatMap (·.annotations), errors.map Issue.ofFile, jobs.length - errors.length⟩

/-- **The order in which jobs finish does not show.** -/
theorem runInOrder_eq (e : Engine) {order : List Nat} {jobs : List Job}
    (h : order.Perm (List.range jobs.length)) : e.runInOrder order jobs = e.reportOf jobs := by
  obtain ⟨out, hout, hlen, hget⟩ := gather_eq e jobs order (jobs.map fun _ => .pending)
  have heq : out = jobs.map e.outcomeOf := by
    refine List.ext_getElem? fun i => ?_
    cases hi : jobs[i]? with
    | none =>
      have hle : jobs.length ≤ i := List.getElem?_eq_none_iff.mp hi
      simp [hi, List.getElem?_eq_none_iff.mpr (show out.length ≤ i by simpa [hlen] using hle)]
    | some job =>
      have hlt : i < jobs.length := (List.getElem?_eq_some_iff.mp hi).1
      have hmem : i ∈ order := h.mem_iff.mpr (List.mem_range.mpr hlt)
      rw [hget i job hi (by simpa using hlt), if_pos hmem, List.getElem?_map, hi]
      rfl
  unfold runInOrder reportOf
  rw [hout, heq]

theorem runJobs_eq (e : Engine) (jobs : List Job) : e.runJobs jobs = e.reportOf jobs :=
  e.runInOrder_eq (List.Perm.refl _)

theorem reportOf_jobsOf (e : Engine) (files : List (String × String)) :
    e.reportOf (jobsOf files) =
      .ok ⟨files.flatMap fun f => e.findingsIn f.1 f.2, [], files.length⟩ := by
  have hout : (jobsOf files).map e.outcomeOf = files.map fun f => ⟨e.findingsIn f.1 f.2, none⟩ := by
    simp [jobsOf, outcomeOf]
  unfold reportOf
  rw [hout]
  simp [List.filterMap_map, List.flatMap_map, jobsOf]

theorem run_eq (e : Engine) (files : List (String × String)) :
    e.run files = .ok ⟨files.flatMap fun f => e.findingsIn f.1 f.2, [], files.length⟩ := by
  rw [run, runJobs_eq, reportOf_jobsOf]

/-! ### The specification -/

/-- The finding of a match by the plain functions: each end is looked for in the text anew. -/
def specifiedFinding (strict : Bool) (path text : String) (r : Rule) (m : Match) :
    Except OffsetError Annotation := do
  let start ← positionOf text.toList m.start
  let stop ← positionOf text.toList m.stop
  let a := Annotation.ofMatch (Path.normalize path) r m start stop
  return if strict then { a with severity := .error } else a

/-- The findings by the plain functions: by file, then by rule, then from left to right. -/
def specification (s : RuleSet) (strict : Bool) (files : List (String × String)) :
    List (Except OffsetError Annotation) :=
  files.flatMap fun f =>
    (s.rules.filter fun r => s.appliesTo r f.1).flatMap fun r =>
      (r.findMatches f.2).map (specifiedFinding strict f.1 f.2 r)

theorem specifiedFinding_eq {strict : Bool} {path text : String} {r : Rule} {m : Match}
    (h : m ∈ r.findMatches text) :
    specifiedFinding strict path text r m =
      .ok (finding strict (Path.normalize path) text r m) := by
  obtain ⟨hle, hstop, -⟩ := Pattern.mem_findMatches h
  unfold specifiedFinding finding
  rw [positionOf_eq (hle.trans hstop), positionOf_eq hstop]
  rfl

theorem map_ok_findings (strict : Bool) (path text : String) (r : Rule) :
    (findings strict (Path.normalize path) text r).map Except.ok =
      (r.findMatches text).map (specifiedFinding strict path text r) := by
  rw [findings, List.map_map]
  exact List.map_congr_left fun m hm => (specifiedFinding_eq hm).symm

/-- **A run reports what the plain functions specify**, whichever job finishes first.  The scope that
the engine decides is that of the path as given, its table gives the position of every offset, and
only the normal form of a path shows. -/
theorem run_eq_specification (e : Engine) (files : List (String × String)) :
    (∃ found : List Annotation,
      found.map Except.ok = specification e.ruleSet e.strict files ∧
      e.run files = .ok { annotations := found, issues := [], filesScanned := files.length } ∧
      ∀ order : List Nat, order.Perm (List.range files.length) →
        e.runInOrder order (jobsOf files) = e.run files) ∧
    (∀ (r : Rule) (path : String),
      (if r.scope.isSet then r.scope.admits (Path.normalize path)
        else e.ruleSet.scope.admits (Path.normalize path)) = e.ruleSet.appliesTo r path) ∧
    (∀ (text : List Char) (offset : Int),
      (LineIndex.ofText text).position offset = positionOf text offset) ∧
    e.run (files.map fun f => (Path.normalize f.1, f.2)) = e.run files := by
  refine ⟨⟨_, ?_, e.run_eq files, ?_⟩, ?_, LineIndex.position_ofText, ?_⟩
  · simp only [findingsIn, List.map_flatMap, map_ok_findings, specification]
  · intro order horder
    rw [run, runJobs_eq]
    exact e.runInOrder_eq (by simpa [jobsOf] using horder)
  · intro r path
    exact e.ruleSet.appliesTo_normalize r path
  · rw [run_eq, run_eq]
    simp only [List.flatMap_map, findingsIn_normalize, List.length_map]

end Engine

/-- The rule that finds one character, in a scope. -/
def charRule (c : Char) (severity : Severity) (scope : Scope) : Rule where
  name := "no " ++ String.singleton c
  pattern := String.singleton c
  compiled := ⟨.char (.literal c.toNat), ⟨false, true, false, false⟩⟩
  documentation := none
  severity := severity
  scope := scope
  literal := true
  ignoreCase := false

end PatternLint
