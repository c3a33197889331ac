import Mathlib.Data.List.Forall2
import Mathlib.Tactic
import PatternLint.Lint.Paths
import PatternLint.Proofs.Lint.Findings
import PatternLint.Proofs.Text.Utf8

/-!
# No file of a run is lost

A file either holds the octets of a text or it is unreadable for one reason (`Volume.readText_eq_ok_iff`,
`Volume.readText_eq_error_iff`).  `Engine.Accounted` goes over the paths of a run and puts each of them in
one of two lists, as a source with its text or as an error with its reason; it knows nothing of jobs and
outcomes.  A run reports the findings in the sources and the errors, each in the order of the paths
(`Accounted.reportOf_eq`).
-/

namespace PatternLint

open PatternLint.Text

/-! ### One file -/

namespace Volume

/-- The file at a path holds the octets of a text. -/
def Holds (v : Volume) (p : Path) (text : String) : Prop := v.read p = .ok (encode text)

/-- Why the file at a path gives no text: it cannot be read, or its octets cannot. -/
inductive Unreadable (v : Volume) (p : Path) : String → Prop
  | access {f : AccessFault} (h : v.read p = .error f) : Unreadable v p (f.message p.text)
  | octets {content : List UInt8} {e : DecodeError} (h : v.read p = .ok content)
    (hd : decode content = .error e) : Unreadable v p e.message

variable {v : Volume} {p : Path}

theorem readText_eq_ok_iff {text : String} : v.readText p = .ok text ↔ v.Holds p text := by
  unfold readText Holds
  cases hread : v.read p with
  | error f => simp
  | ok content =>
    dsimp only
    rw [Except.ok.injEq, ← decode_eq_ok_iff]
    cases decode content with
    | error e => simp
    | ok other => simp

theorem readText_eq_error_iff {reason : String} :
    v.readText p = .error reason ↔ v.Unreadable p reason := by
  unfold readText
  constructor
  · intro h
    cases hread : v.read p with
    | error f =>
      rw [hread] at h
      obtain rfl := Except.error.inj h
      exact .access hread
    | ok content =>
      rw [hread] at h
      dsimp only at h
      cases hd : decode content with
      | error e =>
        rw [hd] at h
        obtain rfl := Except.error.inj h
        exact .octets hread hd
      | ok text => simp [hd] at h
  · rintro (⟨hread⟩ | ⟨hread, hd⟩)
    · rw [hread]
    · rw [hread]
      dsimp only
      rw [hd]

/-- A file is unreadable for some reason exactly if it holds no text. -/
theorem exists_unreadable_iff : (∃ reason, v.Unreadable p reason) ↔ ∀ text, ¬ v.Holds p text := by
  simp only [← readText_eq_error_iff, ← readText_eq_ok_iff]
  cases v.readText p <;> simp

end Volume

/-! ### All files -/

namespace Engine

/-- How a path of a run is reported. -/
def reportedPath (v : Volume) (base p : Path) : String := (p.under base).displayed v.cwdPath base

/-- Each path goes to one of two lists, in order: to the sources with its text, or to the errors with
the reason why it has none. -/
inductive Accounted (v : Volume) (base : Path) :
    List Path → List (String × String) → List FileAccessError → Prop
  | nil : Accounted v base [] [] []
  | source {p paths sources errors} {text : String} (h : v.Holds (p.under base) text)
    (rest : Accounted v base paths sources errors) :
    Accounted v base (p :: paths) ((reportedPath v base p, text) :: sources) errors
  | error {p paths sources errors} {reason : String} (h : v.Unreadable (p.under base) reason)
    (rest : Accounted v base paths sources errors) :
    Accounted v base (p :: paths) sources (⟨reportedPath v base p, reason⟩ :: errors)

section

variable {v : Volume} {base : Path} {paths : List Path} {sources : List (String × String)}
  {errors : List FileAccessError}

theorem exists_accounted (v : Volume) (base : Path) (paths : List Path) :
    ∃ sources errors, Accounted v base paths sources errors := by
  induction paths with
  | nil => exact ⟨[], [], .nil⟩
  | cons p paths ih =>
    obtain ⟨sources, errors, rest⟩ := ih
    cases htext : v.readText (p.under base) with
    | ok text => exact ⟨_, _, .source (Volume.readText_eq_ok_iff.mp htext) rest⟩
    | error reason => exact ⟨_, _, .error (Volume.readText_eq_error_iff.mp htext) rest⟩

theorem Accounted.length_add (h : Accounted v base paths sources errors) :
    sources.length + errors.length = paths.length := by
  induction h with
  | nil => rfl
  | source _ _ ih =>
    simp only [List.length_cons]
    omega
  | error _ _ ih =>
    simp only [List.length_cons]
    omega

/-- Where every file holds a text, these texts are the sources. -/
theorem accounted_of_holds {texts : List String}
    (h : List.Forall₂ (fun p text => v.Holds (p.under base) text) paths texts) :
    Accounted v base paths ((paths.map (reportedPath v base)).zip texts) [] := by
  induction h with
  | nil => exact .nil
  | cons hp _ ih => exact .source hp ih

theorem outcomeOf_jobOf_ok (e : Engine) {p : Path} {text : String}
    (h : v.Holds (p.under base) text) :
    e.outcomeOf (jobOf v base p) = ⟨e.findingsIn (reportedPath v base p) text, none⟩ := by
  have htext : (jobOf v base p).text = .ok text := Volume.readText_eq_ok_iff.mpr h
  unfold outcomeOf
  rw [htext]
  rfl

theorem outcomeOf_jobOf_error (e : Engine) {p : Path} {reason : String}
    (h : v.Unreadable (p.under base) reason) :
    e.outcomeOf (jobOf v base p) = ⟨[], some ⟨reportedPath v base p, reason⟩⟩ := by
  have htext : (jobOf v base p).text = .error reason := Volume.readText_eq_error_iff.mpr h
  unfold outcomeOf
  rw [htext]
  rfl

/-- The outcomes of the jobs hold the findings of the sources and the errors, in order. -/
theorem Accounted.outcomes (e : Engine) (h : Accounted v base paths sources errors) :
    ((paths.map (jobOf v base)).map e.outcomeOf).flatMap (·.annotations) =
        sources.flatMap (fun f => e.findingsIn f.1 f.2) ∧
      ((paths.map (jobOf v base)).map e.outcomeOf).filterMap (·.error) = errors := by
  induction h with
  | nil => exact ⟨rfl, rfl⟩
  | source hp _ ih =>
    simp only [List.map_cons, outcomeOf_jobOf_ok e hp]
    exact ⟨by rw [List.flatMap_cons, List.flatMap_cons, ih.1], ih.2⟩
  | error hp _ ih =>
    simp only [List.map_cons, outcomeOf_jobOf_error e hp]
    exact ⟨ih.1, by rw [List.filterMap_cons, ih.2]⟩

theorem Accounted.reportOf_eq (e : Engine) (h : Accounted v base paths sources errors) :
    e.reportOf (paths.map (jobOf v base)) =
      if e.failOnUnreadable && !errors.isEmpty then .error (.unreadable errors)
      else .ok ⟨sources.flatMap fun f => e.findingsIn f.1 f.2, errors.map Issue.ofFile,
        sources.length⟩ := by
  obtain ⟨hfound, herrors⟩ := h.outcomes e
  have hlength : paths.length - errors.length = sources.length := by
    have := h.length_add
    omega
  unfold reportOf
  simp only [hfound, herrors, List.length_map, hlength]

/-- An error is recorded exactly if one of the files holds no text. -/
theorem Accounted.errors_ne_nil_iff (h : Accounted v base paths sources errors) :
    errors ≠ [] ↔ ∃ p ∈ paths, ∀ text, ¬ v.Holds (p.under base) text := by
  induction h with
  | nil => simp
  | source hp _ ih =>
    rw [ih]
    refine ⟨fun ⟨q, hq, hnone⟩ => ⟨q, List.mem_cons_of_mem _ hq, hnone⟩, ?_⟩
    rintro ⟨q, hq, hnone⟩
    rcases List.mem_cons.mp hq with rfl | hq
    · exact absurd hp (hnone _)
    · exact ⟨q, hq, hnone⟩
  | @error p _ _ _ reason hp _ _ =>
    have hnone := Volume.exists_unreadable_iff.mp ⟨reason, hp⟩
    exact ⟨fun _ => ⟨p, List.mem_cons_self, hnone⟩, fun _ => List.cons_ne_nil _ _⟩

end

theorem runPaths_eq (e : Engine) (v : Volume) {root : Option Path} {paths : List Path}
    (hnull : ∀ p ∈ paths, hasNull (p.under (root.getD v.cwdPath)) = false) :
    e.runPaths v paths root = e.reportOf (paths.map (jobOf v (root.getD v.cwdPath))) := by
  have hany : (paths.any fun p => hasNull (p.under (root.getD v.cwdPath))) = false := by
    rw [List.any_eq_false]
    intro p hp
    rw [hnull p hp]
    exact Bool.false_ne_true
  unfold runPaths
  dsimp only
  rw [hany, if_neg Bool.false_ne_true, runJobs_eq]

/-- **A run over files loses none of them and doubles none.**  No path may hold a null character, seen
from the root.  Every path is a source or an error; a lenient run reports the findings of a run over the
sources, one issue for each error and all in order, whichever file is finished first.  A run that fails
on unreadable files ends with exactly these errors, if there is one.  Files that hold the octets of some
texts are linted like the texts. -/
theorem runPaths_accounts (e : Engine) (v : Volume) (root : Option Path) (paths : List Path)
    (hnull : ∀ p ∈ paths, hasNull (p.under (root.getD v.cwdPath)) = false) :
    (∃ sources errors, Accounted v (root.getD v.cwdPath) paths sources errors ∧
      ∃ r found : LintResult,
        { e with failOnUnreadable := false }.runPaths v paths root = .ok r ∧
        r.filesScanned + r.issues.length = paths.length ∧
        r.issues = errors.map (fun f => ⟨.unreadableFile, f.path, f.message⟩) ∧
        e.run sources = .ok found ∧ r.annotations = found.annotations ∧
        { e with failOnUnreadable := true }.runPaths v paths root =
          (if errors = [] then .ok r else .error (.unreadable errors)) ∧
        (errors ≠ [] ↔ ∃ p ∈ paths, ∀ text, ¬ v.Holds (p.under (root.getD v.cwdPath)) text)) ∧
    (∀ order : List ℕ, order.Perm (List.range paths.length) →
      e.runInOrder order (paths.map (jobOf v (root.getD v.cwdPath))) = e.runPaths v paths root) ∧
    ∀ texts : List String,
      List.Forall₂ (fun p text => v.Holds (p.under (root.getD v.cwdPath)) text) paths texts →
      e.runPaths v paths root =
        e.run ((paths.map (reportedPath v (root.getD v.cwdPath))).zip texts) := by
  refine ⟨?_, fun order horder => ?_, fun texts htexts => ?_⟩
  · obtain ⟨sources, errors, haccounted⟩ := exists_accounted v (root.getD v.cwdPath) paths
    have hlenient : { e with failOnUnreadable := false }.runPaths v paths root =
        .ok ⟨sources.flatMap fun f => e.findingsIn f.1 f.2, errors.map Issue.ofFile,
          sources.length⟩ := by
      rw [runPaths_eq _ v hnull, haccounted.reportOf_eq]
      rfl
    refine ⟨sources, errors, haccounted, _, _, hlenient, ?_, rfl, e.run_eq sources, rfl, ?_,
      haccounted.errors_ne_nil_iff⟩
    · rw [List.length_map]
      exact haccounted.length_add
    · rw [runPaths_eq _ v hnull, haccounted.reportOf_eq]
      cases errors with
      | nil => rfl
      | cons f errors => rfl
  · rw [runPaths_eq e v hnull]
    exact e.runInOrder_eq (by simpa using horder)
  · rw [runPaths_eq e v hnull, (accounted_of_holds htexts).reportOf_eq, e.run_eq]
    simp

/-- A volume with a text that has a mark at its start and mixed line ends, and a file that is no text. -/
def mixedVolume : Volume :=
  ⟨["w"], [([], .directory), (["w"], .directory),
    (["w", "a.txt"], .file (encode "\uFEFF\tx\r\ny\r")), (["w", "b.txt"], .file [0xC3])]⟩

/-- Four paths there: the text twice, a file that is not there and the one that is no text. -/
def mixedPaths : List Path :=
  [⟨.relative, ["a.txt"]⟩, ⟨.relative, ["gone.txt"]⟩, ⟨.root, ["w", "b.txt"]⟩,
    ⟨.relative, ["a.txt"]⟩]

theorem mixedPaths_accounted :
    let tabs : RuleSet := ⟨[charRule '\t' .warning .everywhere], .everywhere⟩
    (∀ p ∈ mixedPaths, hasNull (p.under (Option.getD none mixedVolume.cwdPath)) = false) ∧
      (∃ r, Engine.runPaths ⟨tabs, false, false⟩ mixedVolume mixedPaths none = .ok r ∧
        r.filesScanned + r.issues.length = 4) ∧
      Engine.runPaths ⟨tabs, true, true⟩ mixedVolume [⟨.relative, ["a.txt"]⟩] none =
        Engine.run ⟨tabs, true, true⟩ [("a.txt", "\uFEFF\tx\r\ny\r")] := by
  intro tabs
  have hnull : ∀ p ∈ mixedPaths,
      hasNull (p.under (Option.getD none mixedVolume.cwdPath)) = false := by decide
  refine ⟨hnull, ?_, ?_⟩
  · obtain ⟨⟨_, _, -, r, -, hrun, hlength, -⟩, -⟩ :=
      runPaths_accounts ⟨tabs, false, false⟩ mixedVolume none mixedPaths hnull
    exact ⟨r, hrun, hlength⟩
  · have hholds : mixedVolume.Holds
        (Path.under ⟨.relative, ["a.txt"]⟩ (Option.getD none mixedVolume.cwdPath))
        "\uFEFF\tx\r\ny\r" := rfl
    exact (runPaths_accounts ⟨tabs, true, true⟩ mixedVolume none
      [⟨.relative, ["a.txt"]⟩] (by decide)).2.2 _ (.cons hholds .nil)

end Engine

end PatternLint
