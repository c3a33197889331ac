import Mathlib.Data.List.Flatten
import Mathlib.Data.List.Forall2
import Mathlib.Tactic
import PatternLint.Proofs.Lint.Counts
import PatternLint.Proofs.Lint.Findings

/-!
# Changing the scope of a rule set

What a rule contributes to a run is what the engine finds with this rule alone; a run puts the
contributions together, file by file and rule by rule (`findingsIn_eq_contributions`).  Two runs that
differ in the scope of the rule set are compared contribution by contribution: a rule with a scope of its
own contributes the same to both, and a tighter scope only takes contributions away.  A scope sees its globs
as a set.
-/

namespace PatternLint

/-! ### Scopes -/

namespace Glob

theorem matchesAny_mono {path : String} {globs more : List String} (h : globs ⊆ more)
    (hany : matchesAny path globs = true) : matchesAny path more = true := by
  obtain ⟨glob, hmem, hmatch⟩ := List.any_eq_true.mp hany
  exact List.any_eq_true.mpr ⟨glob, h hmem, hmatch⟩

theorem matchesAny_congr {a b : List String} (h : ∀ glob, glob ∈ a ↔ glob ∈ b) (path : String) :
    matchesAny path a = matchesAny path b :=
  Bool.eq_iff_iff.mpr
    ⟨matchesAny_mono fun glob hmem => (h glob).mp hmem, matchesAny_mono fun glob hmem => (h glob).mpr hmem⟩

end Glob

namespace Scope

/-- The scope `t` is at least as tight as `s`: it excludes every glob that `s` excludes, and if `s` has a
list of includes, `t` has one too and no other globs in it. -/
structure Tightens (t s : Scope) : Prop where
  excludes : ∀ glob ∈ s.excludes.getD [], glob ∈ t.excludes.getD []
  includes : ∀ globs, s.includes = some globs → ∃ fewer, t.includes = some fewer ∧ fewer ⊆ globs

/-- The same lists are set and hold the same globs, in any order and number. -/
structure SameGlobs (s t : Scope) : Prop where
  includes : Option.Rel (fun a b => ∀ glob, glob ∈ a ↔ glob ∈ b) s.includes t.includes
  excludes : Option.Rel (fun a b => ∀ glob, glob ∈ a ↔ glob ∈ b) s.excludes t.excludes

theorem admits_iff {s : Scope} {path : String} :
    s.admits path = true ↔
      (∀ globs, s.includes = some globs → Glob.matchesAny path globs = true) ∧
        Glob.matchesAny path (s.excludes.getD []) = false := by
  unfold admits
  cases s.includes <;> cases s.excludes <;> simp [Glob.matchesAny]

theorem Tightens.admits {s t : Scope} (h : t.Tightens s) {path : String}
    (hadmits : t.admits path = true) : s.admits path = true := by
  rw [admits_iff] at hadmits ⊢
  obtain ⟨hincludes, hexcludes⟩ := hadmits
  refine ⟨fun globs hglobs => ?_, ?_⟩
  · obtain ⟨fewer, hfewer, hsub⟩ := h.includes globs hglobs
    exact Glob.matchesAny_mono hsub (hincludes fewer hfewer)
  · -- a path that an exclude of `s` matches is excluded by `t` as well
    by_contra hne
    have hmatch := Glob.matchesAny_mono (fun glob => h.excludes glob) (Bool.not_eq_false _ ▸ hne)
    rw [hexcludes] at hmatch
    exact Bool.false_ne_true hmatch

theorem SameGlobs.admits_eq {s t : Scope} (h : s.SameGlobs t) (path : String) :
    s.admits path = t.admits path := by
  obtain ⟨sIncludes, sExcludes⟩ := s
  obtain ⟨tIncludes, tExcludes⟩ := t
  obtain ⟨hincludes, hexcludes⟩ := h
  unfold admits
  congr 1
  · cases hincludes with
    | none => rfl
    | some hsame => exact Glob.matchesAny_congr hsame path
  · congr 1
    cases hexcludes with
    | none => rfl
    | some hsame => exact Glob.matchesAny_congr hsame path

theorem SameGlobs.isSet_eq {s t : Scope} (h : s.SameGlobs t) : s.isSet = t.isSet := by
  obtain ⟨sIncludes, sExcludes⟩ := s
  obtain ⟨tIncludes, tExcludes⟩ := t
  obtain ⟨hincludes, hexcludes⟩ := h
  cases hincludes <;> cases hexcludes <;> rfl

end Scope

/-- Rules that differ at most in how the globs of their scopes are listed. -/
structure Rule.SameGlobs (r r' : Rule) : Prop where
  scope : r.scope.SameGlobs r'.scope
  rest : r' = { r with scope := r'.scope }

/-! ### Contributions -/

namespace Engine

/-- The engine with another scope for the rules that have none of their own. -/
def withScope (e : Engine) (s : Scope) : Engine :=
  { e with ruleSet := { e.ruleSet with scope := s } }

/-- The engine with a single rule. -/
def only (e : Engine) (r : Rule) : Engine := { e with ruleSet := { e.ruleSet with rules := [r] } }

/-- What a rule contributes to the findings in a file. -/
def contribution (e : Engine) (r : Rule) (f : String × String) : List Annotation :=
  (e.only r).findingsIn f.1 f.2

theorem contribution_eq (e : Engine) (r : Rule) (f : String × String) :
    e.contribution r f =
      if e.ruleSet.appliesTo r f.1 then findings e.strict (Path.normalize f.1) f.2 r else [] := by
  have happlies : (e.only r).ruleSet.appliesTo r f.1 = e.ruleSet.appliesTo r f.1 := rfl
  have hrules : (e.only r).ruleSet.rules = [r] := rfl
  unfold contribution findingsIn
  rw [hrules, List.filter_cons, happlies]
  split_ifs
  · exact List.flatMap_singleton _ _
  · rfl

theorem run_only (e : Engine) (r : Rule) (f : String × String) :
    (e.only r).run [f] = .ok ⟨e.contribution r f, [], 1⟩ := by
  rw [run_eq, List.flatMap_singleton]
  rfl

theorem findingsIn_eq_contributions (e : Engine) (f : String × String) :
    e.findingsIn f.1 f.2 = e.ruleSet.rules.flatMap (e.contribution · f) := by
  unfold findingsIn
  induction e.ruleSet.rules with
  | nil => rfl
  | cons r rules ih =>
    rw [List.flatMap_cons, contribution_eq, ← ih, List.filter_cons]
    split_ifs <;> rfl

theorem run_withScope (e : Engine) (s : Scope) (files : List (String × String)) :
    (e.withScope s).run files =
      .ok ⟨files.flatMap fun f => e.ruleSet.rules.flatMap ((e.withScope s).contribution · f), [],
        files.length⟩ := by
  rw [run_eq]
  simp only [findingsIn_eq_contributions]
  rfl

/-- A rule with a scope of its own contributes the same whatever the scope of the rule set is. -/
theorem contribution_of_isSet (e : Engine) (s t : Scope) {r : Rule} (h : r.scope.isSet = true)
    (f : String × String) : (e.withScope s).contribution r f = (e.withScope t).contribution r f := by
  have happlies : (e.withScope s).ruleSet.appliesTo r f.1 = (e.withScope t).ruleSet.appliesTo r f.1 := by
    unfold RuleSet.appliesTo
    rw [if_pos h, if_pos h]
  rw [contribution_eq, contribution_eq, happlies]
  rfl

/-- A tighter scope takes a contribution away or leaves it as it is. -/
theorem contribution_sublist (e : Engine) {s t : Scope} (h : t.Tightens s) (r : Rule)
    (f : String × String) :
    ((e.withScope t).contribution r f).Sublist ((e.withScope s).contribution r f) := by
  by_cases hset : r.scope.isSet = true
  · rw [contribution_of_isSet e t s hset]
  · have happlies : ∀ u : Scope, (e.withScope u).ruleSet.appliesTo r f.1 = u.admits f.1 := by
      intro u
      unfold RuleSet.appliesTo
      rw [if_neg hset]
      rfl
    rw [contribution_eq, contribution_eq, happlies, happlies]
    by_cases hadmits : t.admits f.1 = true
    · rw [if_pos hadmits, if_pos (h.admits hadmits)]
      exact List.Sublist.refl _
    · rw [if_neg hadmits]
      exact List.nil_sublist _

theorem contribution_of_sameGlobs (e : Engine) {r r' : Rule} (hr : r.SameGlobs r') {s s' : Scope}
    (hs : s.SameGlobs s') (f : String × String) :
    (e.withScope s').contribution r' f = (e.withScope s).contribution r f := by
  have happlies : (e.withScope s').ruleSet.appliesTo r' f.1 =
      (e.withScope s).ruleSet.appliesTo r f.1 := by
    unfold RuleSet.appliesTo
    rw [hr.scope.isSet_eq, hr.scope.admits_eq]
    exact congrArg _ (hs.admits_eq f.1).symm
  have hfindings : findings (e.withScope s').strict (Path.normalize f.1) f.2 r' =
      findings (e.withScope s).strict (Path.normalize f.1) f.2 r := by
    rw [hr.rest]
    rfl
  rw [contribution_eq, contribution_eq, happlies, hfindings]

theorem contributions_of_sameGlobs (e : Engine) {rules rules' : List Rule}
    (hrules : List.Forall₂ Rule.SameGlobs rules rules') {s s' : Scope} (hs : s.SameGlobs s')
    (f : String × String) :
    rules'.flatMap ((e.withScope s').contribution · f) =
      rules.flatMap ((e.withScope s).contribution · f) := by
  induction hrules with
  | nil => rfl
  | cons hr _ ih =>
    rw [List.flatMap_cons, List.flatMap_cons, ih, contribution_of_sameGlobs e hr hs]

/-! ### Two runs -/

/-- **A change of scope stays where it belongs.**  Two runs that differ in the scope of the rule set put
together, file by file and rule by rule, what each rule finds alone.  A rule with a scope of its own, even
an empty or one-sided one, contributes the same to both.  If the second scope is tighter, findings only
disappear, so the counts do not grow and a passing verdict stays.  How the globs of any scope are listed
does not matter. -/
theorem scope_change_confined (e : Engine) (s t : Scope) (files : List (String × String)) :
    ∃ first second : LintResult,
      (e.withScope s).run files = .ok first ∧ (e.withScope t).run files = .ok second ∧
      first.annotations =
        files.flatMap (fun f => e.ruleSet.rules.flatMap ((e.withScope s).contribution · f)) ∧
      second.annotations =
        files.flatMap (fun f => e.ruleSet.rules.flatMap ((e.withScope t).contribution · f)) ∧
      (∀ (u : Scope) (r : Rule) (f : String × String),
        ((e.withScope u).only r).run [f] = .ok ⟨(e.withScope u).contribution r f, [], 1⟩) ∧
      (∀ (r : Rule) (f : String × String), r.scope.isSet = true →
        (e.withScope s).contribution r f = (e.withScope t).contribution r f) ∧
      (t.Tightens s →
        second.annotations.Sublist first.annotations ∧ second.errorCount ≤ first.errorCount ∧
          second.warningCount ≤ first.warningCount ∧
          (first.verdict = .passing → second.verdict = .passing)) ∧
      ∀ (rules : List Rule) (u : Scope), List.Forall₂ Rule.SameGlobs e.ruleSet.rules rules →
        s.SameGlobs u → ({ e with ruleSet := ⟨rules, u⟩ } : Engine).run files = .ok first := by
  refine ⟨_, _, e.run_withScope s files, e.run_withScope t files, rfl, rfl,
    fun u r f => (e.withScope u).run_only r f, fun r f h => e.contribution_of_isSet s t h f,
    fun h => ?_, fun rules u hrules hu => ?_⟩
  · have hsub : (files.flatMap fun f =>
        e.ruleSet.rules.flatMap ((e.withScope t).contribution · f)).Sublist
        (files.flatMap fun f => e.ruleSet.rules.flatMap ((e.withScope s).contribution · f)) :=
      List.Sublist.flatMap_right files fun f _ =>
        List.Sublist.flatMap_right _ fun r _ => e.contribution_sublist h r f
    exact ⟨hsub, LintResult.errorCount_le hsub, LintResult.warningCount_le hsub,
      LintResult.passing_of_sublist hsub⟩
  · have hrun := run_withScope { e with ruleSet := ⟨rules, u⟩ } u files
    refine hrun.trans ?_
    congr 3
    funext f
    exact e.contributions_of_sameGlobs hrules hu f

/-- One rule without a scope and one with an empty list of excludes, under two scopes of which the second
is tighter. -/
theorem vendored_scope_tightened :
    let e : Engine :=
      ⟨⟨[charRule '!' .error .everywhere, charRule '!' .error ⟨none, some []⟩], .everywhere⟩, false,
        false⟩
    let s : Scope := ⟨none, some ["vendor/"]⟩
    let t : Scope := ⟨some ["*.txt"], some ["*.md", "vendor/"]⟩
    t.Tightens s ∧
      ∃ first second, (e.withScope s).run [("a.txt", "no!"), ("b.py", "!")] = .ok first ∧
        (e.withScope t).run [("a.txt", "no!"), ("b.py", "!")] = .ok second ∧
        second.annotations.Sublist first.annotations ∧ second.errorCount ≤ first.errorCount := by
  intro e s t
  have htight : t.Tightens s := by
    refine ⟨fun glob hglob => ?_, fun globs hglobs => absurd hglobs (by simp [s])⟩
    simp_all [s, t]
  obtain ⟨first, second, hfirst, hsecond, -, -, -, -, hsub, -⟩ :=
    scope_change_confined e s t [("a.txt", "no!"), ("b.py", "!")]
  exact ⟨htight, first, second, hfirst, hsecond, (hsub htight).1, (hsub htight).2.1⟩

end Engine

end PatternLint
