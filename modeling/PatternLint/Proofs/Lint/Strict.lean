import Mathlib.Data.List.Basic
import Mathlib.Tactic
import PatternLint.Lint.Paths
import PatternLint.Proofs.Lint.Counts
import PatternLint.Proofs.Lint.Findings

/-!
# Strict runs

A strict run is a plain run whose findings are all made errors at the end (`reportOf_strict`); what it says
about files that cannot be read is the same.

Runs that share a rule set may be under way at the same time.  In a `Session` the jobs of all of them finish
one after the other, in any order.  A job holds the shared rule set while it is examined and hands one back, also
when it fails; that it is the same one is `Engine.examine_run`.  So a run gathers what it would gather with the
steps of its own alone (`Session.play_advances`), and ends as if the others were not there.
-/

namespace PatternLint

/-- The result with every severity replaced by error. -/
def LintResult.promoted (r : LintResult) : LintResult :=
  { r with annotations := r.annotations.map fun a => { a with severity := .error } }

namespace LintResult

theorem promoted_errorCount (r : LintResult) : r.promoted.errorCount = r.annotations.length := by
  unfold promoted errorCount
  rw [List.countP_map, List.countP_eq_length]
  intro a _
  rfl

theorem promoted_warningCount (r : LintResult) : r.promoted.warningCount = 0 := by
  have hadd := r.promoted.errorCount_add_warningCount
  have hlength : r.promoted.annotations.length = r.annotations.length := List.length_map _
  rw [promoted_errorCount, hlength] at hadd
  omega

theorem promoted_verdict_iff (r : LintResult) :
    r.promoted.verdict = .failing ↔ r.annotations ≠ [] := by
  rw [verdict_eq_failing_iff, promoted_errorCount]
  exact List.length_pos_iff

theorem promoted_failing {r : LintResult} (h : r.verdict = .failing) :
    r.promoted.verdict = .failing := by
  rw [verdict_eq_failing_iff] at h ⊢
  rw [promoted_errorCount, ← errorCount_add_warningCount]
  omega

end LintResult

namespace Engine

/-! ### A strict run and a plain one -/

section

variable (s : RuleSet) (fail : Bool)

theorem findingsIn_strict (path text : String) :
    findingsIn ⟨s, true, fail⟩ path text =
      (findingsIn ⟨s, false, fail⟩ path text).map fun a => { a with severity := .error } := by
  unfold findingsIn
  rw [List.map_flatMap]
  refine congrArg (List.flatMap · _) (funext fun r => ?_)
  unfold findings
  rw [List.map_map]
  rfl

/-- The findings of a strict run are promoted, and the errors are the same. -/
theorem outcomeOf_strict (job : Job) :
    outcomeOf ⟨s, true, fail⟩ job =
      { outcomeOf ⟨s, false, fail⟩ job with
        annotations := (outcomeOf ⟨s, false, fail⟩ job).annotations.map fun a =>
          { a with severity := .error } } := by
  unfold outcomeOf
  cases job.text with
  | error reason => rfl
  | ok text =>
    dsimp only
    rw [findingsIn_strict]

theorem reportOf_strict (jobs : List Job) :
    reportOf ⟨s, true, fail⟩ jobs = (reportOf ⟨s, false, fail⟩ jobs).map LintResult.promoted := by
  have herrors : (jobs.map (outcomeOf ⟨s, true, fail⟩)).filterMap (·.error) =
      (jobs.map (outcomeOf ⟨s, false, fail⟩)).filterMap (·.error) := by
    simp only [List.filterMap_map, Function.comp_def, outcomeOf_strict]
  have hfound : (jobs.map (outcomeOf ⟨s, true, fail⟩)).flatMap (·.annotations) =
      ((jobs.map (outcomeOf ⟨s, false, fail⟩)).flatMap (·.annotations)).map fun a =>
        { a with severity := .error } := by
    simp only [List.flatMap_map, List.map_flatMap, outcomeOf_strict]
  unfold reportOf
  simp only [herrors, hfound]
  split_ifs <;> rfl

theorem run_strict (files : List (String × String)) :
    run ⟨s, true, fail⟩ files = (run ⟨s, false, fail⟩ files).map LintResult.promoted := by
  rw [run, run, runJobs_eq, runJobs_eq, reportOf_strict]

theorem runPaths_strict (v : Volume) (paths : List Path) (root : Option Path) :
    runPaths ⟨s, true, fail⟩ v paths root =
      (runPaths ⟨s, false, fail⟩ v paths root).map LintResult.promoted := by
  unfold runPaths
  dsimp only
  split_ifs
  · rfl
  · rw [runJobs_eq, runJobs_eq, reportOf_strict]

end

/-! ### Runs that share a rule set -/

/-- What is reported once the jobs have these outcomes. -/
def conclude (e : Engine) (jobs : List Job) (outcomes : List FileOutcome) :
    Except RunFailure LintResult :=
  let errors := outcomes.filterMap (·.error)
  if e.failOnUnreadable && !errors.isEmpty then .error (.unreadable errors)
  else .ok ⟨outcomes.flatMap (·.annotations), errors.map Issue.ofFile, jobs.length - errors.length⟩

theorem conclude_eq_runInOrder {e : Engine} {jobs : List Job} {order : List ℕ}
    {outcomes : List FileOutcome}
    (h : e.gather jobs order (jobs.map fun _ => .pending) = .ok outcomes) :
    e.conclude jobs outcomes = e.runInOrder order jobs := by
  unfold runInOrder
  rw [h]
  rfl

theorem gather_append {e : Engine} {jobs : List Job} {a b : List ℕ}
    {outcomes mid out : List FileOutcome} (ha : e.gather jobs a outcomes = .ok mid)
    (hb : e.gather jobs b mid = .ok out) : e.gather jobs (a ++ b) outcomes = .ok out := by
  induction a generalizing outcomes with
  | nil =>
    obtain rfl := Except.ok.inj ha
    exact hb
  | cons i a ih =>
    rw [List.cons_append, gather]
    rw [gather] at ha
    cases hi : jobs[i]? with
    | none =>
      rw [hi] at ha
      exact ih ha
    | some job =>
      rw [hi] at ha
      dsimp only at ha ⊢
      rw [evaluate_eq] at ha ⊢
      exact ih ha

/-! ### Jobs that hold the shared rule set -/

/-- What is computed with the rule set of all runs in hand.  It could be changed, and it is handed back after a
failure too. -/
abbrev Holding := EStateM OffsetError RuleSet

/-- The findings of the rules at some places, each of which is looked up when its turn comes. -/
def lintPlaces (strict : Bool) (path text : String) (globally : Bool) :
    Option LineIndex → List ℕ → Holding (List Annotation)
  | _, [] => return []
  | table, i :: places => do
    match (← get).rules[i]? with
    | none => lintPlaces strict path text globally table places
    | some r =>
      if (if r.scope.isSet then r.scope.admits path else globally) then
        match r.findMatches text with
        | [] => lintPlaces strict path text globally table places
        | first :: more => do
          let index := table.getD (LineIndex.ofText text.toList)
          let found ← MonadExcept.ofExcept ((first :: more).mapM (annotate strict path index r))
          let later ← lintPlaces strict path text globally (some index) places
          return found ++ later
      else lintPlaces strict path text globally table places

/-- Examines a file with the rule set in hand. -/
def examine (strict : Bool) (job : Job) : Holding FileOutcome :=
  match job.text with
  | .error reason => return ⟨[], some ⟨job.path, reason⟩⟩
  | .ok text => do
    let s ← get
    let path := Path.normalize job.path
    let found ←
      lintPlaces strict path text (s.scope.admits path) none (List.range s.rules.length)
    return ⟨found, none⟩

/-- An outcome, with a rule set handed back. -/
def handBack {α : Type} (s : RuleSet) : Except OffsetError α → EStateM.Result OffsetError RuleSet α
  | .ok a => .ok a s
  | .error e => .error e s

section Holding

variable {α β : Type} {s : RuleSet}

theorem run_ofExcept (x : Except OffsetError α) :
    (MonadExcept.ofExcept x : Holding α).run s = handBack s x := by
  cases x <;> rfl

theorem run_get (f : RuleSet → Holding α) : (get >>= f).run s = (f s).run s := rfl

/-- What comes next is computed with the rule set that was handed back. -/
theorem run_bind {x : Holding α} {y : Except OffsetError α} (h : x.run s = handBack s y)
    {f : α → Holding β} {g : α → Except OffsetError β} (hf : ∀ a, (f a).run s = handBack s (g a)) :
    (x >>= f).run s = handBack s (y >>= g) := by
  change EStateM.bind x f s = _
  have hx : x s = handBack s y := h
  rw [EStateM.bind, hx]
  cases y with
  | ok a => exact hf a
  | error e => rfl

/-- The rules are searched for as they stand in the rule set, which is handed back as it is. -/
theorem lintPlaces_run (strict : Bool) (path text : String) (globally : Bool) (table : Option LineIndex)
    (places : List ℕ) :
    (lintPlaces strict path text globally table places).run s =
      handBack s (lintRules strict path text globally table (places.filterMap (s.rules[·]?))) := by
  induction places generalizing table with
  | nil => rfl
  | cons i places ih =>
    rw [lintPlaces, run_get]
    cases hi : s.rules[i]? with
    | none =>
      rw [List.filterMap_cons_none hi]
      exact ih table
    | some r =>
      rw [List.filterMap_cons_some hi, lintRules]
      dsimp only
      by_cases happlies : (if r.scope.isSet then r.scope.admits path else globally) = true
      · rw [if_pos happlies, if_pos happlies]
        cases r.findMatches text with
        | nil => exact ih table
        | cons first more =>
          exact run_bind (run_ofExcept _) fun found => run_bind (ih _) fun later => rfl
      · rw [if_neg happlies, if_neg happlies]
        exact ih table

theorem filterMap_getElem?_range (l : List α) : (List.range l.length).filterMap (l[·]?) = l := by
  induction l with
  | nil => rfl
  | cons a l ih =>
    have hfirst : (a :: l)[0]? = some a := rfl
    rw [List.length_cons, List.range_succ_eq_map, List.filterMap_cons_some hfirst, List.filterMap_map]
    exact congrArg (a :: ·) ih

/-- **Examining a file leaves the rule set as it is**, whatever comes of it. -/
theorem examine_run (e : Engine) (job : Job) :
    (examine e.strict job).run e.ruleSet = handBack e.ruleSet (e.evaluate job) := by
  unfold examine evaluate
  cases job.text with
  | error reason => rfl
  | ok text =>
    have hplaces := lintPlaces_run (s := e.ruleSet) e.strict (Path.normalize job.path) text
      (e.ruleSet.scope.admits (Path.normalize job.path)) none (List.range e.ruleSet.rules.length)
    rw [filterMap_getElem?_range] at hplaces
    have hmap : (e.lintText job.path text).map (FileOutcome.mk · none) =
        e.lintText job.path text >>= fun found => .ok ⟨found, none⟩ := by
      cases e.lintText job.path text <;> rfl
    dsimp only
    rw [hmap]
    exact run_bind hplaces fun found => rfl

end Holding

end Engine

/-- A run that is asked for: how it is made, and of which files. -/
structure RunRequest where
  strict : Bool
  failOnUnreadable : Bool
  jobs : List Engine.Job

namespace RunRequest

def engine (q : RunRequest) (s : RuleSet) : Engine := ⟨s, q.strict, q.failOnUnreadable⟩

end RunRequest

/-- Runs with one rule set between them, each with what has come of its jobs so far. -/
structure Session where
  ruleSet : RuleSet
  runs : List (RunRequest × List Engine.FileOutcome)

namespace Session

/-- All runs are asked for, and no job has finished. -/
def start (s : RuleSet) (requests : List RunRequest) : Session :=
  ⟨s, requests.map fun q => (q, q.jobs.map fun _ => .pending)⟩

/-- Job `i` of run `k` finishes, and hands back a rule set for the jobs after it. -/
def finish (s : Session) (k i : ℕ) : Except OffsetError Session :=
  match s.runs[k]? with
  | none => .ok s
  | some (q, outcomes) =>
    match q.jobs[i]? with
    | none => .ok s
    | some job =>
      match (Engine.examine q.strict job).run s.ruleSet with
      | .ok outcome held => .ok ⟨held, s.runs.set k (q, outcomes.set i outcome)⟩
      | .error e _ => .error e

/-- Jobs finish one after the other, each given by its run and its place there. -/
def play (s : Session) : List (ℕ × ℕ) → Except OffsetError Session
  | [] => .ok s
  | (k, i) :: steps =>
    match s.finish k i with
    | .error f => .error f
    | .ok s => s.play steps

/-- What the runs report if their jobs have finished. -/
def results (s : Session) : List (Except RunFailure LintResult) :=
  s.runs.map fun run => (run.1.engine s.ruleSet).conclude run.1.jobs run.2

/-- The jobs of run `k` among the steps, in the order in which they finish. -/
def stepsOf (k : ℕ) (steps : List (ℕ × ℕ)) : List ℕ := (steps.filter (·.1 = k)).map (·.2)

theorem stepsOf_append (k : ℕ) (a b : List (ℕ × ℕ)) :
    stepsOf k (a ++ b) = stepsOf k a ++ stepsOf k b := by
  simp [stepsOf]

/-- The rule set stays as it is, and each run has gathered what its own steps give. -/
structure Advances (s : Session) (steps : List (ℕ × ℕ)) (s' : Session) : Prop where
  ruleSet : s'.ruleSet = s.ruleSet
  length : s'.runs.length = s.runs.length
  gather : ∀ (j : ℕ) (q : RunRequest) (outcomes : List Engine.FileOutcome),
    s.runs[j]? = some (q, outcomes) → ∃ out, s'.runs[j]? = some (q, out) ∧
      (q.engine s.ruleSet).gather q.jobs (stepsOf j steps) outcomes = .ok out

theorem Advances.refl (s : Session) : s.Advances [] s :=
  ⟨rfl, rfl, fun _ _ outcomes h => ⟨outcomes, h, rfl⟩⟩

theorem Advances.trans {s s' s'' : Session} {a b : List (ℕ × ℕ)} (h : s.Advances a s')
    (h' : s'.Advances b s'') : s.Advances (a ++ b) s'' := by
  refine ⟨h'.ruleSet.trans h.ruleSet, h'.length.trans h.length, fun j q outcomes hj => ?_⟩
  obtain ⟨mid, hmid, ha⟩ := h.gather j q outcomes hj
  obtain ⟨out, hout, hb⟩ := h'.gather j q mid hmid
  rw [h.ruleSet] at hb
  refine ⟨out, hout, ?_⟩
  rw [stepsOf_append]
  exact Engine.gather_append ha hb

/-- One step: only the run whose job finishes gathers anything. -/
theorem finish_advances (s : Session) (k i : ℕ) :
    ∃ s', s.finish k i = .ok s' ∧ s.Advances [(k, i)] s' := by
  unfold finish
  cases hk : s.runs[k]? with
  | none =>
    refine ⟨s, rfl, rfl, rfl, fun j q outcomes hj => ⟨outcomes, hj, ?_⟩⟩
    have hne : k ≠ j := by
      rintro rfl
      rw [hk] at hj
      exact absurd hj (by simp)
    simp [stepsOf, hne, Engine.gather]
  | some run =>
    obtain ⟨q, outcomes⟩ := run
    have hsame {q' : RunRequest} {outcomes' : List Engine.FileOutcome}
        (h : s.runs[k]? = some (q', outcomes')) : q = q' ∧ outcomes = outcomes' := by
      simpa using Option.some.inj (hk.symm.trans h)
    dsimp only
    cases hi : q.jobs[i]? with
    | none =>
      refine ⟨s, rfl, rfl, rfl, fun j q' outcomes' hj => ⟨outcomes', hj, ?_⟩⟩
      by_cases hjk : k = j
      · subst hjk
        obtain ⟨rfl, rfl⟩ := hsame hj
        simp [stepsOf, Engine.gather, hi]
      · simp [stepsOf, hjk, Engine.gather]
    | some job =>
      have hrun := (q.engine s.ruleSet).examine_run job
      have heval := (q.engine s.ruleSet).evaluate_eq job
      rw [heval] at hrun
      have hheld : (Engine.examine q.strict job).run s.ruleSet =
          .ok ((q.engine s.ruleSet).outcomeOf job) s.ruleSet := hrun
      dsimp only
      rw [hheld]
      refine ⟨_, rfl, rfl, List.length_set .., fun j q' outcomes' hj => ?_⟩
      by_cases hjk : k = j
      · subst hjk
        obtain ⟨rfl, rfl⟩ := hsame hj
        have hlt : k < s.runs.length := (List.getElem?_eq_some_iff.mp hk).1
        refine ⟨outcomes.set i ((q.engine s.ruleSet).outcomeOf job), by simp [hlt], ?_⟩
        have hsteps : stepsOf k [(k, i)] = [i] := by simp [stepsOf]
        rw [hsteps, Engine.gather, hi]
        dsimp only
        rw [heval]
        rfl
      · exact ⟨outcomes', by simpa [List.getElem?_set, hjk] using hj, by
          simp [stepsOf, hjk, Engine.gather]⟩

/-- All steps, in whatever order the jobs of the runs finish. -/
theorem play_advances (s : Session) (steps : List (ℕ × ℕ)) :
    ∃ s', s.play steps = .ok s' ∧ s.Advances steps s' := by
  induction steps generalizing s with
  | nil => exact ⟨s, rfl, .refl s⟩
  | cons step steps ih =>
    obtain ⟨k, i⟩ := step
    obtain ⟨mid, hmid, hstep⟩ := s.finish_advances k i
    obtain ⟨out, hout, hsteps⟩ := ih mid
    refine ⟨out, ?_, hstep.trans hsteps⟩
    rw [play, hmid]
    exact hout

/-- Runs whose jobs have all finished report what each reports alone. -/
theorem results_of_advances {s : RuleSet} {requests : List RunRequest} {steps : List (ℕ × ℕ)}
    {done : Session} (h : (start s requests).Advances steps done)
    (hall : ∀ k q, requests[k]? = some q → (stepsOf k steps).Perm (List.range q.jobs.length)) :
    done.results = requests.map fun q => (q.engine s).runJobs q.jobs := by
  refine List.ext_getElem? fun k => ?_
  unfold results
  rw [List.getElem?_map, List.getElem?_map]
  cases hk : requests[k]? with
  | none =>
    have hnone : done.runs[k]? = none := by
      rw [List.getElem?_eq_none_iff, h.length]
      simpa [start] using hk
    rw [hnone]
    rfl
  | some q =>
    obtain ⟨out, hout, hgather⟩ := h.gather k q (q.jobs.map fun _ => .pending) (by simp [start, hk])
    rw [hout, h.ruleSet]
    have hconclude := Engine.conclude_eq_runInOrder hgather
    rw [Engine.runInOrder_eq _ (hall k q hk), ← Engine.runJobs_eq] at hconclude
    exact congrArg some hconclude

end Session

/-- **Strictness is a promotion of severities and nothing else.**  A strict run has the outcome of the plain
one, failures included, with every severity replaced by error; so it has no warnings, as many errors as the
plain run has findings, and fails exactly if there is one.  Strict and plain runs that share a rule set leave
it as it is, and each reports what it reports alone, however their jobs are interleaved. -/
theorem strict_is_promotion (s : RuleSet) :
    (∀ (fail : Bool) (files : List (String × String)),
      Engine.run ⟨s, true, fail⟩ files =
        (Engine.run ⟨s, false, fail⟩ files).map LintResult.promoted) ∧
    (∀ (fail : Bool) (v : Volume) (paths : List Path) (root : Option Path),
      Engine.runPaths ⟨s, true, fail⟩ v paths root =
        (Engine.runPaths ⟨s, false, fail⟩ v paths root).map LintResult.promoted) ∧
    (∀ r : LintResult,
      r.promoted.warningCount = 0 ∧ r.promoted.errorCount = r.errorCount + r.warningCount ∧
        r.errorCount + r.warningCount = r.annotations.length ∧
        (r.promoted.verdict = .failing ↔ r.annotations ≠ []) ∧
        (r.verdict = .failing → r.promoted.verdict = .failing)) ∧
    ∀ (requests : List RunRequest) (steps : List (ℕ × ℕ)),
      (∀ k q, requests[k]? = some q →
        (Session.stepsOf k steps).Perm (List.range q.jobs.length)) →
      ∃ done, (Session.start s requests).play steps = .ok done ∧ done.ruleSet = s ∧
        done.results = requests.map fun q => (q.engine s).runJobs q.jobs := by
  refine ⟨fun fail files => Engine.run_strict s fail files,
    fun fail v paths root => Engine.runPaths_strict s fail v paths root, fun r => ?_,
    fun requests steps hall => ?_⟩
  · have hcount := r.errorCount_add_warningCount
    refine ⟨r.promoted_warningCount, ?_, hcount, r.promoted_verdict_iff, r.promoted_failing⟩
    rw [r.promoted_errorCount, hcount]
  · obtain ⟨done, hdone, hadvances⟩ := (Session.start s requests).play_advances steps
    exact ⟨done, hdone, hadvances.ruleSet, Session.results_of_advances hadvances hall⟩

/-- Two files, the second of which cannot be read. -/
def semicolonJobs : List Engine.Job := [⟨"a.txt", .ok "x;\ny;"⟩, ⟨"b.txt", .error "gone"⟩]

/-- A strict and a plain run over the same files take turns. -/
theorem strict_and_plain_take_turns :
    let s : RuleSet := ⟨[charRule ';' .warning .everywhere], .everywhere⟩
    ∃ done, (Session.start s [⟨true, false, semicolonJobs⟩, ⟨false, true, semicolonJobs⟩]).play
        [(0, 1), (1, 0), (0, 0), (1, 1)] = .ok done ∧
      done.results = [Engine.runJobs ⟨s, true, false⟩ semicolonJobs,
        Engine.runJobs ⟨s, false, true⟩ semicolonJobs] := by
  intro s
  have hall : ∀ (k : ℕ) (q : RunRequest),
      [⟨true, false, semicolonJobs⟩, ⟨false, true, semicolonJobs⟩][k]? = some q →
        (Session.stepsOf k [(0, 1), (1, 0), (0, 0), (1, 1)]).Perm (List.range q.jobs.length) := by
    intro k q hk
    match k, hk with
    | 0, hk =>
      obtain rfl := Option.some.inj hk
      exact List.Perm.swap 0 1 []
    | 1, hk =>
      obtain rfl := Option.some.inj hk
      exact List.Perm.refl _
  obtain ⟨done, hdone, -, hresults⟩ := (strict_is_promotion s).2.2.2 _ _ hall
  exact ⟨done, hdone, hresults⟩

end PatternLint
