import PatternLint.Proofs.RuleSet.Refusal
import PatternLint.Proofs.Text.Blank

/-!
# Every field is judged by itself

A `FieldRule` says what a field may hold, and what is said of any other value; `entryRules` and `settingRules`
list the rules for the fields of an entry and for the settings of a document.  A field is read from its own
value alone: it is right, or it has the one problem that its rule gives (`Judges`).  So the problems of an
entry are those of the fields that offend, in the order of the rules (`Problems`), and likewise for the
settings, whatever the entries are.
-/

namespace PatternLint

open PatternLint.Text

/-! ### What a field may hold -/

namespace Document

/-- A field that is left out or null. -/
def Unset (v : Option Document) : Prop := v = none ∨ v = some .null

/-- A text that is the name of the severity, in any case and between any blanks. -/
def Names (v : Document) (severity : Severity) : Prop :=
  ∃ s, v = .text s ∧ toLower (strip s.toList) = severity.name.toList

/-- A flag that is set; one that is left out or null is not. -/
def isOn : Option Document → Bool
  | some (.bool b) => b
  | _ => false

end Document

/-- What a field may hold, and what is said of any other value. -/
structure FieldRule where
  key : String
  Right : Option Document → Prop
  complaint : Option Document → String

namespace FieldRule

def name : FieldRule where
  key := "name"
  Right v := ∃ s, v = some (.text s) ∧ ∃ c ∈ s.toList, ¬ Blank c
  complaint _ := "'name' must be a non-empty string"

def pattern : FieldRule where
  key := "pattern"
  Right v := ∃ s, v = some (.text s)
  complaint v := "'pattern' must be a string, got " ++ (v.getD .null).kindName

def documentation : FieldRule where
  key := "documentation"
  Right v := Document.Unset v ∨ ∃ s, v = some (.text s)
  complaint _ := "'documentation' must be a string"

/-- What is said of a value that names no severity. -/
def severityComplaint (label : String) : Option Document → String
  | some (.text s) => label ++ ": " ++ Severity.unknownMessage s
  | _ => label ++ " must be a string"

def severity : FieldRule where
  key := "severity"
  Right v := Document.Unset v ∨ ∃ d severity, v = some d ∧ d.Names severity
  complaint := severityComplaint "'severity'"

/-- The severity of the rules that name none.  It may be left out, but null names no severity. -/
def defaultSeverity : FieldRule where
  key := "default-severity"
  Right v := v = none ∨ ∃ d severity, v = some d ∧ d.Names severity
  complaint := severityComplaint "default-severity"

def globs (key label : String) : FieldRule where
  key := key
  Right v := Document.Unset v ∨ ∃ d, v = some d ∧ d.IsTexts
  complaint _ := label ++ " must be a list of glob strings"

def flag (key : String) : FieldRule where
  key := key
  Right v := Document.Unset v ∨ ∃ b, v = some (.bool b)
  complaint _ := quoted key ++ " must be true or false"

/-- The field of a mapping is right. -/
def Holds (f : FieldRule) (m : Field.Entries) : Prop := f.Right (Document.lookup m f.key)

/-- What is said of the field of a mapping if it offends. -/
def complaintOf (f : FieldRule) (m : Field.Entries) : String :=
  f.complaint (Document.lookup m f.key)

end FieldRule

/-- The rules for the fields of an entry. -/
def entryRules : List FieldRule :=
  [.name, .pattern, .documentation, .severity,
    .globs "overridden-include-paths" "'overridden-include-paths'",
    .globs "overridden-exclude-paths" "'overridden-exclude-paths'",
    .flag "literal", .flag "ignore-case"]

/-- The rules for the settings of a document. -/
def settingRules : List FieldRule :=
  [.globs "global-include-paths" "global-include-paths",
    .globs "global-exclude-paths" "global-exclude-paths", .defaultSeverity]

/-- The problems of a mapping: one for each field that offends, in the order of the rules. -/
inductive Problems (m : Field.Entries) : List FieldRule → List String → Prop
  | nil : Problems m [] []
  | right {f : FieldRule} {fs : List FieldRule} {ps : List String} :
      f.Holds m → Problems m fs ps → Problems m (f :: fs) ps
  | offends {f : FieldRule} {fs : List FieldRule} {ps : List String} :
      ¬ f.Holds m → Problems m fs ps → Problems m (f :: fs) (f.complaintOf m :: ps)

section Listed

variable {m : Field.Entries} {fs : List FieldRule} {ps : List String}

theorem Problems.unique (h : Problems m fs ps) {ps' : List String} (h' : Problems m fs ps') :
    ps = ps' := by
  induction h generalizing ps' with
  | nil => cases h'; rfl
  | right hf _ ih =>
    cases h' with
    | right _ h' => exact ih h'
    | offends hf' _ => exact absurd hf hf'
  | offends hf _ ih =>
    cases h' with
    | right hf' _ => exact absurd hf' hf
    | offends _ h' => rw [ih h']

theorem Problems.eq_nil_iff (h : Problems m fs ps) : ps = [] ↔ ∀ f ∈ fs, f.Holds m := by
  induction h with
  | nil => simp
  | right hf _ ih => simp [ih, hf]
  | offends hf _ _ => simp [hf]

end Listed

/-! ### How the fields are read -/

/-- A field that is right is read, and of any other its one problem is told. -/
structure Judges {α : Type} (f : FieldRule) (m : Field.Entries) (x : Except String α) : Prop where
  right : f.Holds m → ∃ a, x = .ok a
  offends : ¬ f.Holds m → x = .error (f.complaintOf m)

section Read

variable {m : Field.Entries}

theorem Judges.problems {α : Type} {f : FieldRule} {x : Except String α} {fs : List FieldRule}
    {rest : List (Option String)} (h : Judges f m x) (hrest : Problems m fs (rest.filterMap id)) :
    Problems m (f :: fs) ((Field.problem? x :: rest).filterMap id) := by
  by_cases hf : f.Holds m
  · obtain ⟨a, rfl⟩ := h.right hf
    exact .right hf hrest
  · rw [h.offends hf]
    exact .offends hf hrest

/-- A field that may be left out or null is read from its value where it is set. -/
theorem lookupSet_cases (m : Field.Entries) (key : String) :
    (Document.Unset (Document.lookup m key) ∧ Document.lookupSet m key = none) ∨
      ∃ d, Document.lookup m key = some d ∧ ¬ Document.Unset (Document.lookup m key) ∧
        Document.lookupSet m key = some d := by
  unfold Document.lookupSet Document.Unset
  cases hv : Document.lookup m key with
  | none => exact Or.inl ⟨Or.inl rfl, rfl⟩
  | some d =>
    cases d with
    | null => exact Or.inl ⟨Or.inr rfl, rfl⟩
    | _ => exact Or.inr ⟨_, rfl, by simp, rfl⟩

theorem judges_name : Judges .name m (Field.name m) := by
  unfold Field.name
  constructor
  · rintro ⟨s, hs, c, hc, hblank⟩
    have hs : Document.lookup m "name" = some (.text s) := hs
    have hne : strip s.toList ≠ [] := fun h => hblank (strip_eq_nil_iff.mp h c hc)
    rw [hs]
    simp [hne]
  · intro hname
    split
    · rename_i s hs
      have hnil : strip s.toList = [] := by
        refine strip_eq_nil_iff.mpr fun c hc => ?_
        by_contra hblank
        exact hname ⟨s, hs, c, hc, hblank⟩
      simp [hnil, FieldRule.complaintOf, FieldRule.name]
    · rfl

theorem judges_pattern : Judges .pattern m (Field.pattern m) := by
  unfold Field.pattern
  constructor
  · rintro ⟨s, hs⟩
    have hs : Document.lookup m "pattern" = some (.text s) := hs
    exact ⟨s, by rw [hs]; rfl⟩
  · intro hpattern
    split
    · rename_i s hs
      refine absurd ⟨s, ?_⟩ hpattern
      obtain ⟨d, hd⟩ : ∃ d, Document.lookup m "pattern" = some d := by
        cases hv : Document.lookup m "pattern" with
        | none => simp [hv] at hs
        | some d => exact ⟨d, rfl⟩
      rw [hd, Option.getD_some] at hs
      exact hs ▸ hd
    · rfl

theorem judges_documentation : Judges .documentation m (Field.documentation m) := by
  unfold Field.documentation
  rcases lookupSet_cases m "documentation" with ⟨hunset, hset⟩ | ⟨d, hd, hunset, hset⟩
  · rw [hset]
    exact ⟨fun _ => ⟨none, rfl⟩, fun h => absurd (Or.inl hunset) h⟩
  · rw [hset]
    constructor
    · rintro (h | ⟨s, hs⟩)
      · exact absurd h hunset
      · obtain rfl := Option.some.inj (hd.symm.trans hs)
        exact ⟨_, rfl⟩
    · intro h
      cases d with
      | text s => exact absurd (Or.inr ⟨s, hd⟩) h
      | _ => rfl

theorem judges_globs (key label : String) : Judges (.globs key label) m (Field.globs key label m) := by
  unfold Field.globs
  rcases lookupSet_cases m key with ⟨hunset, hset⟩ | ⟨d, hd, hunset, hset⟩
  · rw [hset]
    exact ⟨fun _ => ⟨none, rfl⟩, fun h => absurd (Or.inl hunset) h⟩
  · rw [hset]
    constructor
    · rintro (h | ⟨_, hv, xs, rfl⟩)
      · exact absurd h hunset
      · obtain rfl := Option.some.inj (hd.symm.trans hv)
        exact ⟨some xs, by simp [Document.texts?_eq_some.mpr rfl]⟩
    · intro h
      dsimp only
      cases hread : d.texts? with
      | none => rfl
      | some xs => exact absurd (Or.inr ⟨d, hd, xs, Document.texts?_eq_some.mp hread⟩) h

/-- A flag that is right is read as it stands. -/
theorem flag_of_holds {key : String} (h : (FieldRule.flag key).Holds m) :
    Field.flag key m = .ok (Document.isOn (Document.lookup m key)) := by
  have h : Document.Unset (Document.lookup m key) ∨ ∃ b, Document.lookup m key = some (.bool b) := h
  unfold Field.flag Document.lookupSet
  rcases h with (h | h) | ⟨b, h⟩
  · rw [h]; rfl
  · rw [h]; rfl
  · rw [h]; rfl

theorem judges_flag (key : String) : Judges (.flag key) m (Field.flag key m) := by
  refine ⟨fun h => ⟨_, flag_of_holds h⟩, fun h => ?_⟩
  unfold Field.flag
  rcases lookupSet_cases m key with ⟨hunset, hset⟩ | ⟨d, hd, -, hset⟩
  · exact absurd (Or.inl hunset) h
  · rw [hset]
    cases d with
    | bool b => exact absurd (Or.inr ⟨b, hd⟩) h
    | _ => rfl

/-- The severity that a text names, if it names one. -/
theorem severityValue_cases (label : String) (d : Document) :
    (∃ severity, d.Names severity ∧ Field.severityValue label d = .ok severity) ∨
      ((∀ severity, ¬ d.Names severity) ∧
        Field.severityValue label d = .error (FieldRule.severityComplaint label (some d))) := by
  cases d with
  | text s =>
    unfold Field.severityValue
    dsimp only
    cases hs : Severity.ofName? s with
    | none =>
      refine Or.inr ⟨?_, rfl⟩
      rintro severity ⟨_, ⟨⟩, heq⟩
      exact Severity.ofName?_eq_none.mp hs severity heq
    | some severity =>
      have hname := List.find?_some (p := fun v : Severity => v.name.toList == toLower (strip s.toList)) hs
      exact Or.inl ⟨severity, ⟨s, rfl, (beq_iff_eq.mp hname).symm⟩, rfl⟩
  | _ => exact Or.inr ⟨by simp [Document.Names], rfl⟩

/-- The severity that a field gives: the one that it names, or another one where it is not set. -/
def Severity.ChosenBy (v : Option Document) (fallback severity : Severity) : Prop :=
  (Document.Unset v ∧ severity = fallback) ∨ ∃ d, v = some d ∧ d.Names severity

/-- A field that chooses a severity is not set and gives another one, or is read by the name that it holds. -/
def ReadsSeverity (f : FieldRule) (label : String) (fallback : Severity) (m : Field.Entries)
    (x : Except String Severity) : Prop :=
  (Document.Unset (Document.lookup m f.key) ∧ f.Holds m ∧ x = .ok fallback) ∨
    ∃ d, Document.lookup m f.key = some d ∧ (f.Holds m ↔ ∃ severity, d.Names severity) ∧
      f.complaintOf m = FieldRule.severityComplaint label (some d) ∧ x = Field.severityValue label d

section Severity

variable {f : FieldRule} {label : String} {fallback : Severity} {x : Except String Severity}

theorem ReadsSeverity.judges (h : ReadsSeverity f label fallback m x) : Judges f m x := by
  rcases h with ⟨-, hholds, rfl⟩ | ⟨d, -, hholds, hcomplaint, rfl⟩
  · exact ⟨fun _ => ⟨fallback, rfl⟩, fun h => absurd hholds h⟩
  · rcases severityValue_cases label d with ⟨severity, hname, hvalue⟩ | ⟨hnone, hvalue⟩
    · exact ⟨fun _ => ⟨severity, hvalue⟩, fun h => absurd (hholds.mpr ⟨severity, hname⟩) h⟩
    · refine ⟨fun h => ?_, fun _ => hvalue.trans (congrArg _ hcomplaint.symm)⟩
      obtain ⟨severity, hname⟩ := hholds.mp h
      exact absurd hname (hnone severity)

theorem ReadsSeverity.chosen (h : ReadsSeverity f label fallback m x) {severity : Severity}
    (hx : x = .ok severity) : Severity.ChosenBy (Document.lookup m f.key) fallback severity := by
  rcases h with ⟨hunset, -, rfl⟩ | ⟨d, hd, -, -, rfl⟩
  · exact Or.inl ⟨hunset, (Except.ok.inj hx).symm⟩
  · rcases severityValue_cases label d with ⟨severity', hname, hvalue⟩ | ⟨-, hvalue⟩
    · rw [hvalue] at hx
      obtain rfl := Except.ok.inj hx
      exact Or.inr ⟨d, hd, hname⟩
    · simp [hvalue] at hx

end Severity

theorem readsSeverity (fallback : Severity) :
    ReadsSeverity .severity "'severity'" fallback m (Field.severity fallback m) := by
  unfold Field.severity
  rcases lookupSet_cases m "severity" with ⟨hunset, hset⟩ | ⟨d, hd, hunset, hset⟩
  · rw [hset]
    exact Or.inl ⟨hunset, Or.inl hunset, rfl⟩
  · rw [hset]
    refine Or.inr ⟨d, hd, ⟨?_, ?_⟩, congrArg (FieldRule.severityComplaint _) hd, rfl⟩
    · rintro (h | ⟨_, severity, hv, hname⟩)
      · exact absurd h hunset
      · obtain rfl := Option.some.inj (hd.symm.trans hv)
        exact ⟨severity, hname⟩
    · rintro ⟨severity, hname⟩
      exact Or.inr ⟨d, severity, hd, hname⟩

theorem readsDefaultSeverity :
    ReadsSeverity .defaultSeverity "default-severity" .error m (Field.defaultSeverity m) := by
  unfold Field.defaultSeverity
  cases hv : Document.lookup m "default-severity" with
  | none => exact Or.inl ⟨Or.inl hv, Or.inl hv, rfl⟩
  | some d =>
    refine Or.inr ⟨d, hv, ⟨?_, ?_⟩, congrArg (FieldRule.severityComplaint _) hv, rfl⟩
    · rintro (h | ⟨_, severity, hd, hname⟩)
      · exact absurd (hv.symm.trans h) (by simp)
      · obtain rfl := Option.some.inj (hv.symm.trans hd)
        exact ⟨severity, hname⟩
    · rintro ⟨severity, hname⟩
      exact Or.inr ⟨d, severity, hv, hname⟩

end Read

/-! ### Entries -/

section Entry

variable {fallback : Severity} {i : Nat} {m : Field.Entries}

theorem problems_entry (fallback : Severity) (m : Field.Entries) :
    Problems m entryRules (EntryFields.ofEntries fallback m).problems :=
  judges_name.problems <| judges_pattern.problems <| judges_documentation.problems <|
    (readsSeverity fallback).judges.problems <| (judges_globs _ _).problems <|
    (judges_globs _ _).problems <| (judges_flag _).problems <| (judges_flag _).problems .nil

/-- What the engine makes of the pattern of an entry; a literal one is a plain text. -/
def EntryCompiles (m : Field.Entries) (x : Except Pattern.Refusal Pattern) : Prop :=
  ∃ s, Document.lookup m "pattern" = some (.text s) ∧
    Pattern.compile (Rule.sourceOf s (Document.isOn (Document.lookup m "literal")))
      (Document.isOn (Document.lookup m "ignore-case")) = x

theorem EntryCompiles.unique {x y : Except Pattern.Refusal Pattern} (h : EntryCompiles m x)
    (h' : EntryCompiles m y) : x = y := by
  obtain ⟨s, hs, rfl⟩ := h
  obtain ⟨s', hs', rfl⟩ := h'
  obtain ⟨⟩ := hs.symm.trans hs'
  rfl

theorem readEntry_of_problems (h : (EntryFields.ofEntries fallback m).problems ≠ []) :
    readEntry fallback i (.mapping m) =
      .dropped (.invalid i (Field.name m).toOption (EntryFields.ofEntries fallback m).problems) := by
  unfold readEntry
  dsimp only
  split
  · rename_i h1 h2 h3 h4 h5 h6 h7 h8
    simp [EntryFields.problems, h1, h2, h3, h4, h5, h6, h7, h8, Field.problem?] at h
  · rfl

/-- An entry whose fields are right becomes the rule that they describe, if its pattern is accepted. -/
theorem readEntry_of_holds (fallback : Severity) (i : Nat) (h : ∀ f ∈ entryRules, f.Holds m) :
    ∃ name s documentation severity scope,
      Document.lookup m "pattern" = some (.text s) ∧
      Severity.ChosenBy (Document.lookup m "severity") fallback severity ∧
      readEntry fallback i (.mapping m) =
        buildRule name s documentation severity scope (Document.isOn (Document.lookup m "literal"))
          (Document.isOn (Document.lookup m "ignore-case")) := by
  simp only [entryRules, List.forall_mem_cons] at h
  obtain ⟨hname, ⟨s, hs⟩, hdoc, hseverity, hincludes, hexcludes, hliteral, hcase, -⟩ := h
  obtain ⟨name, h1⟩ := judges_name.right hname
  have h2 : Field.pattern m = .ok s := by
    have hs : Document.lookup m "pattern" = some (.text s) := hs
    rw [Field.pattern, hs, Option.getD_some]
  obtain ⟨documentation, h3⟩ := judges_documentation.right hdoc
  obtain ⟨severity, h4⟩ := (readsSeverity fallback).judges.right hseverity
  obtain ⟨includes, h5⟩ := (judges_globs _ _).right hincludes
  obtain ⟨excludes, h6⟩ := (judges_globs _ _).right hexcludes
  have h7 := flag_of_holds hliteral
  have h8 := flag_of_holds hcase
  refine ⟨name, s, documentation, severity, ⟨includes, excludes⟩, hs,
    (readsSeverity fallback).chosen h4, ?_⟩
  unfold readEntry
  dsimp only [EntryFields.ofEntries]
  rw [h1, h2, h3, h4, h5, h6, h7, h8]

/-- What becomes of an entry: one of its fields offends, or the engine decides by its pattern. -/
theorem readEntry_outcomes (fallback : Severity) (i : Nat) (m : Field.Entries) :
    ((∃ f ∈ entryRules, ¬ f.Holds m) ∧ ∃ name ps, Problems m entryRules ps ∧
        readEntry fallback i (.mapping m) = .dropped (.invalid i name ps)) ∨
      ((∀ f ∈ entryRules, f.Holds m) ∧
        ((∃ p rule, EntryCompiles m (.ok p) ∧ readEntry fallback i (.mapping m) = .kept rule ∧
            rule.compiled = p ∧
            Severity.ChosenBy (Document.lookup m "severity") fallback rule.severity) ∨
          (∃ f name pattern reason, EntryCompiles m (.error (.fault f)) ∧
            readEntry fallback i (.mapping m) = .dropped (.uncompilable name pattern reason)) ∨
          ∃ r source, EntryCompiles m (.error r) ∧ (∀ f, r ≠ .fault f) ∧
            readEntry fallback i (.mapping m) = .failed r source)) := by
  have hproblems := problems_entry fallback m
  by_cases hall : ∀ f ∈ entryRules, f.Holds m
  · obtain ⟨name, s, documentation, severity, scope, hs, hchosen, hread⟩ :=
      readEntry_of_holds fallback i hall
    refine Or.inr ⟨hall, ?_⟩
    rw [hread]
    unfold buildRule Rule.create
    cases hc : Pattern.compile (Rule.sourceOf s (Document.isOn (Document.lookup m "literal")))
        (Document.isOn (Document.lookup m "ignore-case")) with
    | ok p => exact Or.inl ⟨p, _, ⟨s, hs, hc⟩, rfl, rfl, hchosen⟩
    | error r =>
      cases r with
      | fault f => exact Or.inr (Or.inl ⟨f, _, _, _, ⟨s, hs, hc⟩, rfl⟩)
      | repeatTooLarge | asciiAndUnicode =>
        exact Or.inr (Or.inr ⟨_, _, ⟨s, hs, hc⟩, by simp, rfl⟩)
  · have hne := mt hproblems.eq_nil_iff.mp hall
    refine Or.inl ⟨?_, _, _, hproblems, readEntry_of_problems hne⟩
    obtain ⟨f, hf⟩ := not_forall.mp hall
    exact ⟨f, Classical.not_imp.mp hf⟩

theorem readEntry_kept_iff :
    (∃ rule, readEntry fallback i (.mapping m) = .kept rule) ↔
      (∀ f ∈ entryRules, f.Holds m) ∧ ∃ p, EntryCompiles m (.ok p) := by
  rcases readEntry_outcomes fallback i m with ⟨⟨f, hf, hno⟩, name, ps, -, h⟩ | ⟨hall,
    ⟨p, rule, hp, h, -⟩ | ⟨f, name, pattern, reason, hf, h⟩ | ⟨r, source, hr, -, h⟩⟩
  · exact ⟨fun ⟨_, hk⟩ => by simp [h] at hk, fun ⟨hall, _⟩ => absurd (hall f hf) hno⟩
  · exact ⟨fun _ => ⟨hall, p, hp⟩, fun _ => ⟨rule, h⟩⟩
  · refine ⟨fun ⟨_, hk⟩ => by simp [h] at hk, fun ⟨_, p, hp⟩ => ?_⟩
    cases hf.unique hp
  · refine ⟨fun ⟨_, hk⟩ => by simp [h] at hk, fun ⟨_, p, hp⟩ => ?_⟩
    cases hr.unique hp

theorem readEntry_uncompilable_iff :
    (∃ name pattern reason,
        readEntry fallback i (.mapping m) = .dropped (.uncompilable name pattern reason)) ↔
      (∀ f ∈ entryRules, f.Holds m) ∧ ∃ f, EntryCompiles m (.error (.fault f)) := by
  rcases readEntry_outcomes fallback i m with ⟨⟨f, hf, hno⟩, name, ps, -, h⟩ | ⟨hall,
    ⟨p, rule, hp, h, -⟩ | ⟨f, name, pattern, reason, hf, h⟩ | ⟨r, source, hr, hfault, h⟩⟩
  · exact ⟨fun ⟨_, _, _, hk⟩ => by simp [h] at hk, fun ⟨hall, _⟩ => absurd (hall f hf) hno⟩
  · refine ⟨fun ⟨_, _, _, hk⟩ => by simp [h] at hk, fun ⟨_, f, hf⟩ => ?_⟩
    cases hp.unique hf
  · exact ⟨fun _ => ⟨hall, f, hf⟩, fun _ => ⟨name, pattern, reason, h⟩⟩
  · refine ⟨fun ⟨_, _, _, hk⟩ => by simp [h] at hk, fun ⟨_, f, hf⟩ => ?_⟩
    exact absurd (Except.error.inj (hr.unique hf)) (hfault f)

theorem readEntry_invalid_iff {ps : List String} (hps : Problems m entryRules ps)
    {ps' : List String} :
    (∃ name, readEntry fallback i (.mapping m) = .dropped (.invalid i name ps')) ↔
      ps' = ps ∧ ∃ f ∈ entryRules, ¬ f.Holds m := by
  rcases readEntry_outcomes fallback i m with ⟨hoffends, name, qs, hqs, h⟩ | ⟨hall, hrest⟩
  · obtain rfl := hps.unique hqs
    constructor
    · rintro ⟨name', h'⟩
      obtain ⟨⟩ := h.symm.trans h'
      exact ⟨rfl, hoffends⟩
    · rintro ⟨rfl, -⟩
      exact ⟨name, h⟩
  · constructor
    · rintro ⟨name, h'⟩
      rcases hrest with ⟨_, _, -, h, -⟩ | ⟨_, _, _, _, -, h⟩ | ⟨_, _, -, -, h⟩
      · simp [h] at h'
      · simp [h] at h'
      · simp [h] at h'
    · rintro ⟨-, f, hf, hno⟩
      exact absurd (hall f hf) hno

/-- The severity of a rule is the one that its entry names, if it names one. -/
theorem readEntry_severity {entry : Document} {rule : Rule}
    (h : readEntry fallback i entry = .kept rule) :
    ∃ m, entry = .mapping m ∧
      Severity.ChosenBy (Document.lookup m "severity") fallback rule.severity := by
  cases entry with
  | mapping m =>
    refine ⟨m, rfl, ?_⟩
    rcases readEntry_outcomes fallback i m with ⟨-, _, _, -, h'⟩ | ⟨-,
      ⟨_, _, -, h', -, hchosen⟩ | ⟨_, _, _, _, -, h'⟩ | ⟨_, _, -, -, h'⟩⟩
    · simp [h] at h'
    · obtain rfl := EntryOutcome.kept.inj (h.symm.trans h')
      exact hchosen
    · simp [h] at h'
    · simp [h] at h'
  | _ => simp [readEntry] at h

end Entry

/-! ### Documents -/

section Documents

variable {m : Field.Entries}

/-- The settings are refused with the problems of those that offend. -/
theorem readSettings_eq_error_iff {ps : List String} (hps : Problems m settingRules ps)
    {e : ConfigurationError} :
    readSettings m = .error e ↔ (∃ f ∈ settingRules, ¬ f.Holds m) ∧
      e = ⟨"Rule set has " ++ toString ps.length ++ " problem(s)", ps⟩ := by
  have hread : Problems m settingRules
      ([Field.problem? (Field.globs "global-include-paths" "global-include-paths" m),
        Field.problem? (Field.globs "global-exclude-paths" "global-exclude-paths" m),
        Field.problem? (Field.defaultSeverity m)].filterMap id) :=
    (judges_globs _ _).problems <| (judges_globs _ _).problems <|
      readsDefaultSeverity.judges.problems .nil
  obtain rfl := hps.unique hread
  have hoffends := not_congr hread.eq_nil_iff
  simp only [not_forall, exists_prop] at hoffends
  rw [← hoffends]
  unfold readSettings
  dsimp only
  cases Field.globs "global-include-paths" "global-include-paths" m <;>
    cases Field.globs "global-exclude-paths" "global-exclude-paths" m <;>
    cases Field.defaultSeverity m <;> simp [Field.problem?] <;> exact eq_comm

theorem exists_problems (m : Field.Entries) (fs : List FieldRule) : ∃ ps, Problems m fs ps := by
  induction fs with
  | nil => exact ⟨[], .nil⟩
  | cons f fs ih =>
    obtain ⟨ps, hps⟩ := ih
    by_cases hf : f.Holds m
    · exact ⟨ps, .right hf hps⟩
    · exact ⟨_, .offends hf hps⟩

theorem readSettings_fallback {settings : Settings} (h : readSettings m = .ok settings) :
    Severity.ChosenBy (Document.lookup m "default-severity") .error settings.fallback := by
  refine (readsDefaultSeverity (m := m)).chosen ?_
  unfold readSettings at h
  dsimp only at h
  split at h
  · rename_i hfallback
    rw [hfallback, ← Except.ok.inj h]
  · simp at h

/-- Every rule that is kept comes from one of the entries. -/
theorem mem_readEntries {fallback : Severity} {i : Nat} {entries : List Document} {l : EntryLists}
    (h : (readEntries fallback i entries).value = .ok l) {rule : Rule} (hrule : rule ∈ l.rules) :
    ∃ entry ∈ entries, ∃ j, readEntry fallback j entry = .kept rule := by
  induction entries generalizing i l with
  | nil =>
    obtain rfl := Except.ok.inj h
    simp at hrule
  | cons entry entries ih =>
    obtain ⟨later, hlater, ⟨r, hr, rfl⟩ | ⟨d, -, rfl⟩⟩ := readEntries_cons.mp h
    · rcases List.mem_cons.mp hrule with rfl | hrule
      · exact ⟨entry, List.mem_cons_self, i, hr⟩
      · obtain ⟨x, hx, hread⟩ := ih hlater hrule
        exact ⟨x, List.mem_cons_of_mem _ hx, hread⟩
    · obtain ⟨x, hx, hread⟩ := ih hlater hrule
      exact ⟨x, List.mem_cons_of_mem _ hx, hread⟩

theorem ofDocument_unusable_iff {d : Document} {e : ConfigurationError} :
    (RuleSet.ofDocument d).value = .error (.unusable e) ↔ readTop d = .error e := by
  rw [ofDocument_error_iff]
  constructor
  · rintro (⟨c, hc, heq⟩ | ⟨settings, entries, -, hread⟩)
    · obtain rfl := ReadFailure.unusable.inj heq
      exact hc
    · obtain ⟨r, source, heq, -⟩ := readEntries_error_iff.mp hread
      cases heq
  · intro h
    exact Or.inl ⟨e, h, rfl⟩

end Documents

/-- **Every field is judged by itself.**  An entry is kept exactly if each of its fields is right and the
engine accepts its pattern; if fields offend it is dropped with one problem for each of them, in the order
of the rules and told from the value of that field alone, and only an entry without them is dropped for its
pattern.  A document with a list of entries is refused with one problem for each setting that offends,
whatever the entries are.  The severity of a rule is the one that its entry names, else the one that the
document names, else that of an error. -/
theorem fields_judged_apart :
    (∀ (fallback : Severity) (i : Nat) (m : Field.Entries),
      ((∃ rule, readEntry fallback i (.mapping m) = .kept rule) ↔
        (∀ f ∈ entryRules, f.Holds m) ∧ ∃ p, EntryCompiles m (.ok p)) ∧
      (∃ ps, Problems m entryRules ps ∧
        ∀ ps', (∃ name, readEntry fallback i (.mapping m) = .dropped (.invalid i name ps')) ↔
          ps' = ps ∧ ∃ f ∈ entryRules, ¬ f.Holds m) ∧
      ((∃ name pattern reason,
          readEntry fallback i (.mapping m) = .dropped (.uncompilable name pattern reason)) ↔
        (∀ f ∈ entryRules, f.Holds m) ∧ ∃ f, EntryCompiles m (.error (.fault f)))) ∧
    ∀ (m : Field.Entries) (entries : List Document),
      Document.lookup m "rules" = some (.list entries) →
      (∃ ps, Problems m settingRules ps ∧
        ∀ e, (RuleSet.ofDocument (.mapping m)).value = .error (.unusable e) ↔
          (∃ f ∈ settingRules, ¬ f.Holds m) ∧
            e = ⟨"Rule set has " ++ toString ps.length ++ " problem(s)", ps⟩) ∧
      ∀ parsed, (RuleSet.ofDocument (.mapping m)).value = .ok parsed →
        ∀ rule ∈ parsed.ruleSet.rules, ∃ entry fallback, .mapping entry ∈ entries ∧
          Severity.ChosenBy (Document.lookup m "default-severity") .error fallback ∧
          Severity.ChosenBy (Document.lookup entry "severity") fallback rule.severity := by
  refine ⟨fun fallback i m => ⟨readEntry_kept_iff, ?_, readEntry_uncompilable_iff⟩,
    fun m entries hrules => ⟨?_, fun parsed hparsed rule hrule => ?_⟩⟩
  · have hps := problems_entry fallback m
    exact ⟨_, hps, fun ps' => readEntry_invalid_iff hps⟩
  · obtain ⟨ps, hps⟩ := exists_problems m settingRules
    refine ⟨ps, hps, fun e => ?_⟩
    rw [ofDocument_unusable_iff, readTop_list hrules, map_eq_error, readSettings_eq_error_iff hps]
  · obtain ⟨settings, entries', htop, hread⟩ := ofDocument_ok hparsed
    rw [readTop_list hrules] at htop
    obtain ⟨settings', hsettings, heq⟩ := map_eq_ok.mp htop
    obtain ⟨rfl, rfl⟩ := Prod.mk.inj heq
    obtain ⟨x, hx, j, hkept⟩ := mem_readEntries hread hrule
    obtain ⟨entry, rfl, hchosen⟩ := readEntry_severity hkept
    exact ⟨entry, _, hx, readSettings_fallback hsettings, hchosen⟩

-- an integer is no flag, and the pattern of an entry with faults is not looked at
example :
    readEntry .error 4
        (.mapping [("literal", .int 1), ("name", .text " "), ("pattern", .text "(")]) =
      .dropped (.invalid 4 none
        ["'name' must be a non-empty string", "'literal' must be true or false"]) := by
  rfl

end PatternLint
