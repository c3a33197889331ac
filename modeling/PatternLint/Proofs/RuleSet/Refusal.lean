import PatternLint.Proofs.RuleSet.Isolation

/-!
# When no rule set comes out of a document

A document is refused as a whole exactly if it is unusable as a whole, which is said here without the
reader (`Document.Unusable`).  What is wrong with a single entry drops that entry, with two exceptions:
the refusals of a pattern that are no fault at a place of it are passed on and stop the reading at the
first entry that has one.
-/

namespace PatternLint

open PatternLint.Text

/-! ### Unusable documents -/

namespace Document

/-- A list that holds texts only. -/
def IsTexts (v : Document) : Prop := ∃ xs : List String, v = .list (xs.map .text)

/-- A text that names a severity, in any case and between any blanks. -/
def NamesSeverity (v : Document) : Prop :=
  ∃ (s : String) (severity : Severity), v = .text s ∧ toLower (strip s.toList) = severity.name.toList

/-- A document that is unusable as a whole. -/
inductive Unusable : Document → Prop
  | noMapping {d : Document} (h : ∀ m, d ≠ .mapping m) : Unusable d
  | noRules {m : Field.Entries} (h : ∀ entries, lookup m "rules" ≠ some (.list entries)) :
      Unusable (.mapping m)
  | paths {m : Field.Entries} {key : String} {v : Document}
      (hkey : key = "global-include-paths" ∨ key = "global-exclude-paths")
      (hv : lookup m key = some v) (hnull : v ≠ .null) (h : ¬ v.IsTexts) : Unusable (.mapping m)
  | severity {m : Field.Entries} {v : Document} (hv : lookup m "default-severity" = some v)
      (h : ¬ v.NamesSeverity) : Unusable (.mapping m)

theorem mapM_text_eq_some {items : List Document} {xs : List String} :
    (items.mapM fun v => match v with | .text s => some s | _ => none) = some xs ↔
      items = xs.map .text := by
  induction items generalizing xs with
  | nil => cases xs <;> simp
  | cons v items ih =>
    cases v with
    | text s => cases xs <;> simp [ih, Option.bind_eq_some_iff, and_comm]
    | _ => cases xs <;> simp

theorem texts?_eq_some {v : Document} {xs : List String} :
    v.texts? = some xs ↔ v = .list (xs.map .text) := by
  cases v with
  | list items =>
    rw [list.injEq]
    exact mapM_text_eq_some
  | _ => simp [texts?]

theorem lookupSet_eq_some {m : Field.Entries} {key : String} {v : Document} :
    lookupSet m key = some v ↔ lookup m key = some v ∧ v ≠ .null := by
  unfold lookupSet
  split
  · rename_i h
    rw [h]
    simp only [reduceCtorEq, Option.some.injEq, false_iff, not_and, not_not]
    exact fun hv => hv.symm
  · rename_i h
    exact ⟨fun hv => ⟨hv, fun hnull => h (hv.trans (congrArg some hnull))⟩, And.left⟩

end Document

theorem Severity.ofName?_eq_none {s : String} :
    Severity.ofName? s = none ↔ ∀ v : Severity, toLower (strip s.toList) ≠ v.name.toList := by
  unfold Severity.ofName?
  dsimp only
  rw [List.find?_eq_none]
  constructor
  · intro h v hv
    refine h v ?_ ?_
    · cases v <;> decide
    · simp [hv]
  · intro h v _ hv
    exact h v (beq_iff_eq.mp hv).symm

namespace Field

theorem globs_error_iff {key label : String} {m : Entries} :
    (∃ p, globs key label m = .error p) ↔
      ∃ v, Document.lookup m key = some v ∧ v ≠ .null ∧ ¬ v.IsTexts := by
  have hset : ∀ v, Document.lookupSet m key = some v ↔ Document.lookup m key = some v ∧ v ≠ .null :=
    fun v => Document.lookupSet_eq_some
  unfold globs
  cases hlookup : Document.lookupSet m key with
  | none =>
    constructor
    · rintro ⟨p, hp⟩
      simp at hp
    · rintro ⟨v, hv, hnull, -⟩
      rw [(hset v).mpr ⟨hv, hnull⟩] at hlookup
      simp at hlookup
  | some v =>
    obtain ⟨hv, hnull⟩ := (hset v).mp hlookup
    have htexts : v.IsTexts ↔ ∃ xs, v.texts? = some xs :=
      exists_congr fun xs => Document.texts?_eq_some.symm
    cases hread : v.texts? with
    | none => simp [hread, htexts, hv, hnull]
    | some xs => simp [hread, htexts, hv]

theorem severityValue_error_iff {label : String} {v : Document} :
    (∃ p, severityValue label v = .error p) ↔ ¬ v.NamesSeverity := by
  cases v with
  | text s =>
    have hname : (Document.text s).NamesSeverity ↔ Severity.ofName? s ≠ none := by
      simp [Document.NamesSeverity, Severity.ofName?_eq_none]
    rw [hname, not_not, severityValue]
    cases Severity.ofName? s <;> simp
  | _ => simp [severityValue, Document.NamesSeverity]

theorem defaultSeverity_error_iff {m : Entries} :
    (∃ p, defaultSeverity m = .error p) ↔
      ∃ v, Document.lookup m "default-severity" = some v ∧ ¬ v.NamesSeverity := by
  unfold defaultSeverity
  cases hlookup : Document.lookup m "default-severity" with
  | none => simp
  | some v => simpa using severityValue_error_iff

end Field

theorem readSettings_error_iff {m : Field.Entries} :
    (∃ e, readSettings m = .error e) ↔
      (∃ p, Field.globs "global-include-paths" "global-include-paths" m = .error p) ∨
        (∃ p, Field.globs "global-exclude-paths" "global-exclude-paths" m = .error p) ∨
        ∃ p, Field.defaultSeverity m = .error p := by
  unfold readSettings
  dsimp only
  cases Field.globs "global-include-paths" "global-include-paths" m <;>
    cases Field.globs "global-exclude-paths" "global-exclude-paths" m <;>
    cases Field.defaultSeverity m <;> simp

theorem map_eq_error {α β ε : Type} {x : Except ε α} {f : α → β} {e : ε} :
    x.map f = .error e ↔ x = .error e := by
  cases x <;> simp [Except.map]

theorem readTop_list {m : Field.Entries} {entries : List Document}
    (h : Document.lookup m "rules" = some (.list entries)) :
    readTop (.mapping m) = (readSettings m).map (·, entries) := by
  have hset : Document.lookupSet m "rules" = some (.list entries) :=
    Document.lookupSet_eq_some.mpr ⟨h, by simp⟩
  rw [readTop, hset]

theorem readTop_error_of_noRules {m : Field.Entries}
    (h : ∀ entries, Document.lookup m "rules" ≠ some (.list entries)) :
    ∃ e, readTop (.mapping m) = .error e := by
  unfold readTop
  dsimp only
  split
  · exact ⟨_, rfl⟩
  · rename_i entries hset
    exact absurd (Document.lookupSet_eq_some.mp hset).1 (h entries)
  · exact ⟨_, rfl⟩

/-- **The top level is refused exactly if the document is unusable as a whole.** -/
theorem readTop_error_iff {d : Document} : (∃ e, readTop d = .error e) ↔ d.Unusable := by
  cases d with
  | mapping m =>
    by_cases hrules : ∃ entries, Document.lookup m "rules" = some (.list entries)
    · obtain ⟨entries, hentries⟩ := hrules
      simp only [readTop_list hentries, map_eq_error]
      rw [readSettings_error_iff, Field.globs_error_iff, Field.globs_error_iff,
        Field.defaultSeverity_error_iff]
      constructor
      · rintro (⟨v, hv, hnull, h⟩ | ⟨v, hv, hnull, h⟩ | ⟨v, hv, h⟩)
        · exact .paths (Or.inl rfl) hv hnull h
        · exact .paths (Or.inr rfl) hv hnull h
        · exact .severity hv h
      · intro h
        cases h with
        | noMapping h => exact absurd rfl (h m)
        | noRules h => exact absurd hentries (h entries)
        | @paths _ key v hkey hv hnull h =>
          rcases hkey with rfl | rfl
          · exact Or.inl ⟨v, hv, hnull, h⟩
          · exact Or.inr (Or.inl ⟨v, hv, hnull, h⟩)
        | severity hv h => exact Or.inr (Or.inr ⟨_, hv, h⟩)
    · have hnone : ∀ entries, Document.lookup m "rules" ≠ some (.list entries) :=
        fun entries h => hrules ⟨entries, h⟩
      exact ⟨fun _ => .noRules hnone, fun _ => readTop_error_of_noRules hnone⟩
  | _ =>
    refine ⟨fun _ => .noMapping fun m hm => ?_, fun _ => ⟨_, rfl⟩⟩
    simp at hm

/-! ### Entries with a problem -/

/-- The pattern of an entry as the engine gets it, and whether case is ignored. -/
def EntryPattern (entry : Document) (source : String) (ignoreCase : Bool) : Prop :=
  ∃ m pattern literal, entry = .mapping m ∧ Field.pattern m = .ok pattern ∧
    Field.flag "literal" m = .ok literal ∧ Field.flag "ignore-case" m = .ok ignoreCase ∧
    source = Rule.sourceOf pattern literal

theorem EntryPattern.unique {entry : Document} {source source' : String} {ic ic' : Bool}
    (h : EntryPattern entry source ic) (h' : EntryPattern entry source' ic') :
    source = source' ∧ ic = ic' := by
  obtain ⟨m, pattern, literal, rfl, hp, hl, hi, rfl⟩ := h
  obtain ⟨m', pattern', literal', hm, hp', hl', hi', rfl⟩ := h'
  obtain rfl := Document.mapping.inj hm
  rw [hp] at hp'
  rw [hl] at hl'
  rw [hi] at hi'
  obtain rfl := Except.ok.inj hp'
  obtain rfl := Except.ok.inj hl'
  exact ⟨rfl, Except.ok.inj hi'⟩

section Entry

variable (fallback : Severity) (entry : Document)

/-- The fields of an entry are right, but its pattern, read from `source`, is refused. -/
def Refuses (r : Pattern.Refusal) (source : String) : Prop :=
  ¬ Malformed fallback entry ∧
    ∃ ignoreCase, EntryPattern entry source ignoreCase ∧ Pattern.compile source ignoreCase = .error r

/-- A problem that is confined to the entry. -/
def HasProblem : Prop := Malformed fallback entry ∨ ∃ r source, Refuses fallback entry r source

/-- The pattern is refused for a reason that is no fault at a place of it. -/
def GivesUp (r : Pattern.Refusal) (source : String) : Prop :=
  Refuses fallback entry r source ∧ ∀ f, r ≠ .fault f

variable {fallback entry}

theorem Refuses.unique {r r' : Pattern.Refusal} {source source' : String}
    (h : Refuses fallback entry r source) (h' : Refuses fallback entry r' source') :
    r = r' ∧ source = source' := by
  obtain ⟨-, ic, hp, hr⟩ := h
  obtain ⟨-, ic', hp', hr'⟩ := h'
  obtain ⟨rfl, rfl⟩ := hp.unique hp'
  rw [hr] at hr'
  exact ⟨Except.error.inj hr', rfl⟩

theorem EntryPattern.not_hasProblem {source : String} {ic : Bool} {p : Pattern}
    (h : EntryPattern entry source ic) (hm : ¬ Malformed fallback entry)
    (hc : Pattern.compile source ic = .ok p) : ¬ HasProblem fallback entry := by
  rintro (hmal | ⟨r, source', -, ic', hp', hr⟩)
  · exact hm hmal
  · obtain ⟨rfl, rfl⟩ := h.unique hp'
    simp [hc] at hr

/-- The fields of an entry without problems are right, and its rule is built from them. -/
theorem readEntry_of_not_malformed {m : Field.Entries} (h : ¬ Malformed fallback (.mapping m))
    (i : Nat) :
    ∃ name pattern documentation severity scope literal ignoreCase,
      EntryPattern (.mapping m) (Rule.sourceOf pattern literal) ignoreCase ∧
      readEntry fallback i (.mapping m) =
        buildRule name pattern documentation severity scope literal ignoreCase := by
  simp only [Malformed, ne_eq, not_not, EntryFields.problems, List.filterMap_eq_nil_iff,
    List.mem_cons, id_eq, List.not_mem_nil, or_false, forall_eq_or_imp, forall_eq,
    problem?_eq_none] at h
  obtain ⟨⟨a, ha⟩, ⟨b, hb⟩, ⟨c, hc⟩, ⟨s, hs⟩, ⟨x, hx⟩, ⟨y, hy⟩, ⟨l, hl⟩, ⟨g, hg⟩⟩ := h
  refine ⟨a, b, c, s, ⟨x, y⟩, l, g, ⟨m, b, l, rfl, hb, hl, hg, rfl⟩, ?_⟩
  unfold readEntry
  dsimp only
  rw [ha, hb, hc, hs, hx, hy, hl, hg]

theorem readEntry_of_malformed (h : Malformed fallback entry) (i : Nat) :
    ∃ d, readEntry fallback i entry = .dropped d := by
  cases entry with
  | mapping m =>
    unfold readEntry
    dsimp only
    split
    · rename_i h1 h2 h3 h4 h5 h6 h7 h8
      simp [Malformed, EntryFields.problems, h1, h2, h3, h4, h5, h6, h7, h8, Field.problem?] at h
    · exact ⟨_, rfl⟩
  | _ => exact ⟨_, rfl⟩

theorem buildRule_cases (name pattern : String) (documentation : Option String) (severity : Severity)
    (scope : Scope) (literal ignoreCase : Bool) :
    (∃ p rule, Pattern.compile (Rule.sourceOf pattern literal) ignoreCase = .ok p ∧
        buildRule name pattern documentation severity scope literal ignoreCase = .kept rule) ∨
      (∃ f d, Pattern.compile (Rule.sourceOf pattern literal) ignoreCase = .error (.fault f) ∧
        buildRule name pattern documentation severity scope literal ignoreCase = .dropped d) ∨
      ∃ r, Pattern.compile (Rule.sourceOf pattern literal) ignoreCase = .error r ∧
        (∀ f, r ≠ .fault f) ∧
        buildRule name pattern documentation severity scope literal ignoreCase =
          .failed r (Rule.sourceOf pattern literal) := by
  unfold buildRule Rule.create
  cases hc : Pattern.compile (Rule.sourceOf pattern literal) ignoreCase with
  | ok p => exact Or.inl ⟨p, _, rfl, rfl⟩
  | error r =>
    cases r with
    | fault f => exact Or.inr (Or.inl ⟨f, _, rfl, rfl⟩)
    | repeatTooLarge => exact Or.inr (Or.inr ⟨_, rfl, by simp, rfl⟩)
    | asciiAndUnicode => exact Or.inr (Or.inr ⟨_, rfl, by simp, rfl⟩)

/-- What becomes of an entry, by what is wrong with it. -/
theorem readEntry_cases (fallback : Severity) (i : Nat) (entry : Document) :
    (∃ d, readEntry fallback i entry = .dropped d ∧
        (Malformed fallback entry ∨ ∃ f source, Refuses fallback entry (.fault f) source)) ∨
      (∃ r source, readEntry fallback i entry = .failed r source ∧ GivesUp fallback entry r source) ∨
      ∃ rule, readEntry fallback i entry = .kept rule ∧ ¬ HasProblem fallback entry := by
  by_cases hm : Malformed fallback entry
  · obtain ⟨d, hd⟩ := readEntry_of_malformed hm i
    exact Or.inl ⟨d, hd, Or.inl hm⟩
  · cases entry with
    | mapping m =>
      obtain ⟨name, pattern, documentation, severity, scope, literal, ic, hp, hread⟩ :=
        readEntry_of_not_malformed hm i
      rw [hread]
      rcases buildRule_cases name pattern documentation severity scope literal ic with
        ⟨p, rule, hc, hbuild⟩ | ⟨f, d, hc, hbuild⟩ | ⟨r, hc, hr, hbuild⟩
      · exact Or.inr (Or.inr ⟨rule, hbuild, hp.not_hasProblem hm hc⟩)
      · exact Or.inl ⟨d, hbuild, Or.inr ⟨f, _, hm, ic, hp, hc⟩⟩
      · exact Or.inr (Or.inl ⟨r, _, hbuild, ⟨hm, ic, hp, hc⟩, hr⟩)
    | _ => exact absurd trivial hm

theorem readEntry_failed_iff_givesUp {i : Nat} {r : Pattern.Refusal} {source : String} :
    readEntry fallback i entry = .failed r source ↔ GivesUp fallback entry r source := by
  rcases readEntry_cases fallback i entry with
    ⟨d, hd, hm | ⟨f, s, hf⟩⟩ | ⟨r', s', hr', hgives⟩ | ⟨rule, hrule, hnone⟩
  · exact ⟨fun h => by simp [hd] at h, fun h => absurd hm h.1.1⟩
  · exact ⟨fun h => by simp [hd] at h, fun h => absurd (h.1.unique hf).1 (h.2 f)⟩
  · constructor
    · intro h
      obtain ⟨rfl, rfl⟩ := EntryOutcome.failed.inj (hr'.symm.trans h)
      exact hgives
    · intro h
      obtain ⟨rfl, rfl⟩ := h.1.unique hgives.1
      exact hr'
  · exact ⟨fun h => by simp [hrule] at h, fun h => absurd (Or.inr ⟨r, source, h.1⟩) hnone⟩

/-- Where no entry makes the engine give up, an entry has a problem exactly if it is dropped. -/
theorem readEntry_dropped_iff (i : Nat) (h : ∀ r source, ¬ GivesUp fallback entry r source) :
    (∃ d, readEntry fallback i entry = .dropped d) ↔ HasProblem fallback entry := by
  rcases readEntry_cases fallback i entry with
    ⟨d, hd, hm | ⟨f, s, hf⟩⟩ | ⟨r, s, -, hgives⟩ | ⟨rule, hrule, hnone⟩
  · exact ⟨fun _ => Or.inl hm, fun _ => ⟨d, hd⟩⟩
  · exact ⟨fun _ => Or.inr ⟨_, s, hf⟩, fun _ => ⟨d, hd⟩⟩
  · exact absurd hgives (h r s)
  · exact ⟨fun ⟨d, hd⟩ => by simp [hrule] at hd, fun hp => absurd hp hnone⟩

end Entry

/-! ### Documents -/

namespace EntryOutcome

def rule? : EntryOutcome → Option Rule
  | .kept r => some r
  | _ => none

def error? : EntryOutcome → Option DroppedRule
  | .dropped d => some d
  | _ => none

end EntryOutcome

/-- What becomes of the entries from `i` on, each read by itself. -/
def entryOutcomes (fallback : Severity) (i : Nat) (entries : List Document) : List EntryOutcome :=
  (entries.zipIdx i).map fun p => readEntry fallback p.2 p.1

section Entries

variable {fallback : Severity}

/-- The first entry on which the engine gives up. -/
def FirstGivesUp (fallback : Severity) (entries : List Document) (r : Pattern.Refusal)
    (source : String) : Prop :=
  ∃ front entry back, entries = front ++ entry :: back ∧
    (∀ x ∈ front, ∀ r source, ¬ GivesUp fallback x r source) ∧ GivesUp fallback entry r source

theorem firstGivesUp_cons {entry : Document} {entries : List Document} {r : Pattern.Refusal}
    {source : String} :
    FirstGivesUp fallback (entry :: entries) r source ↔
      GivesUp fallback entry r source ∨
        (∀ r source, ¬ GivesUp fallback entry r source) ∧ FirstGivesUp fallback entries r source := by
  constructor
  · rintro ⟨front, x, back, heq, hfront, hx⟩
    cases front with
    | nil =>
      obtain ⟨rfl, rfl⟩ := List.cons.inj heq
      exact Or.inl hx
    | cons y front =>
      obtain ⟨rfl, rfl⟩ := List.cons.inj heq
      exact Or.inr ⟨hfront _ List.mem_cons_self, front, x, back, rfl,
        fun z hz => hfront z (List.mem_cons_of_mem _ hz), hx⟩
  · rintro (h | ⟨h, front, x, back, rfl, hfront, hx⟩)
    · exact ⟨[], entry, entries, rfl, by simp, h⟩
    · refine ⟨entry :: front, x, back, rfl, fun z hz => ?_, hx⟩
      rcases List.mem_cons.mp hz with rfl | hz
      · exact h
      · exact hfront z hz

/-- Reading stops at the first entry on which the engine gives up, and nowhere else. -/
theorem readEntries_error_iff {i : Nat} {entries : List Document} {e : ReadFailure} :
    (readEntries fallback i entries).value = .error e ↔
      ∃ r source, e = .engine r source ∧ FirstGivesUp fallback entries r source := by
  -- the index of an entry is only told in its report, so any first index will do
  induction entries generalizing i with
  | nil =>
    constructor
    · intro h
      simp [readEntries] at h
    · rintro ⟨r, source, -, front, x, back, heq, -⟩
      simp at heq
  | cons entry entries ih =>
    have hgives : ∀ r source, GivesUp fallback entry r source ↔
        readEntry fallback i entry = .failed r source :=
      fun r source => readEntry_failed_iff_givesUp.symm
    simp only [firstGivesUp_cons, hgives]
    rw [readEntries]
    cases hread : readEntry fallback i entry with
    | kept rule => simp [map_eq_error, ih]
    | dropped d => simp [map_eq_error, ih]
    | failed r source =>
      constructor
      · intro h
        exact ⟨r, source, (Except.error.inj h).symm, Or.inl rfl⟩
      · rintro ⟨r', source', rfl, h | ⟨h, -⟩⟩
        · obtain ⟨rfl, rfl⟩ := EntryOutcome.failed.inj h
          rfl
        · exact absurd rfl (h r source)

/-- Where the engine never gives up, the entries are read one by one. -/
theorem readEntries_eq {entries : List Document} (i : Nat)
    (h : ∀ x ∈ entries, ∀ r source, ¬ GivesUp fallback x r source) :
    (readEntries fallback i entries).value =
      .ok ⟨(entryOutcomes fallback i entries).filterMap EntryOutcome.rule?,
        (entryOutcomes fallback i entries).filterMap EntryOutcome.error?⟩ := by
  induction entries generalizing i with
  | nil => rfl
  | cons entry entries ih =>
    have hlater := ih (i + 1) fun x hx => h x (List.mem_cons_of_mem _ hx)
    have houtcomes : entryOutcomes fallback i (entry :: entries) =
        readEntry fallback i entry :: entryOutcomes fallback (i + 1) entries := rfl
    rw [houtcomes, readEntries_cons]
    refine ⟨_, hlater, ?_⟩
    cases hread : readEntry fallback i entry with
    | kept r => exact Or.inl ⟨r, rfl, rfl⟩
    | dropped d => exact Or.inr ⟨d, rfl, rfl⟩
    | failed r source =>
      exact absurd (readEntry_failed_iff_givesUp.mp hread) (h entry List.mem_cons_self r source)

end Entries

theorem ofDocument_error_iff {d : Document} {e : ReadFailure} :
    (RuleSet.ofDocument d).value = .error e ↔
      (∃ c, readTop d = .error c ∧ e = .unusable c) ∨
        ∃ settings entries, readTop d = .ok (settings, entries) ∧
          (readEntries settings.fallback 0 entries).value = .error e := by
  unfold RuleSet.ofDocument
  cases htop : readTop d with
  | error c => simp [eq_comm]
  | ok top =>
    obtain ⟨settings, entries⟩ := top
    dsimp only
    cases hread : (readEntries settings.fallback 0 entries).value with
    | error e' => simp [hread]
    | ok lists => simp [hread]

/-- **When reading a document fails.**  It is refused as a whole exactly if it is unusable as a whole.
A usable document fails exactly at the first entry on which the engine gives up, with that refusal, which
is not reported as the entry's own; where there is none, every entry with a problem is dropped and all
others are kept. -/
theorem ofDocument_fails_iff (d : Document) :
    ((∃ e, (RuleSet.ofDocument d).value = .error (.unusable e)) ↔ d.Unusable) ∧
      (¬ d.Unusable → ∃ settings entries, readTop d = .ok (settings, entries) ∧
        (∀ r source, (RuleSet.ofDocument d).value = .error (.engine r source) ↔
          FirstGivesUp settings.fallback entries r source) ∧
        ((∀ x ∈ entries, ∀ r source, ¬ GivesUp settings.fallback x r source) →
          (RuleSet.ofDocument d).value =
            .ok ⟨⟨(entryOutcomes settings.fallback 0 entries).filterMap EntryOutcome.rule?,
              settings.scope⟩,
              (entryOutcomes settings.fallback 0 entries).filterMap EntryOutcome.error?⟩ ∧
          ∀ x ∈ entries, ∀ i, (∃ e, readEntry settings.fallback i x = .dropped e) ↔
            HasProblem settings.fallback x)) := by
  refine ⟨?_, fun husable => ?_⟩
  · rw [← readTop_error_iff]
    simp only [ofDocument_error_iff, readEntries_error_iff]
    constructor
    · rintro ⟨e, ⟨c, hc, -⟩ | ⟨settings, entries, -, r, source, h, -⟩⟩
      · exact ⟨c, hc⟩
      · simp at h
    · rintro ⟨c, hc⟩
      exact ⟨c, Or.inl ⟨c, hc, rfl⟩⟩
  · cases htop : readTop d with
    | error c => exact absurd (readTop_error_iff.mp ⟨c, htop⟩) husable
    | ok top =>
      obtain ⟨settings, entries⟩ := top
      refine ⟨settings, entries, rfl, fun r source => ?_, fun hnone => ⟨?_, ?_⟩⟩
      · simp [ofDocument_error_iff, readEntries_error_iff, htop]
      · exact ofDocument_eq htop (readEntries_eq 0 hnone)
      · exact fun x hx i => readEntry_dropped_iff i (hnone x hx)

/-- A usable document with one entry, whose repeat count is beyond the range of the engine. -/
def hugeRepeat : Document := .mapping [("rules", .list [entryOf "a" "a\x7b99999999999\x7d"])]

/-- The problem of that entry is not confined to it. -/
theorem hugeRepeat_fails :
    ¬ hugeRepeat.Unusable ∧
      (RuleSet.ofDocument hugeRepeat).value =
        .error (.engine .repeatTooLarge "a\x7b99999999999\x7d") := by
  refine ⟨fun h => ?_, rfl⟩
  have hok : readTop hugeRepeat =
      .ok (⟨.everywhere, .error⟩, [entryOf "a" "a\x7b99999999999\x7d"]) := rfl
  obtain ⟨e, he⟩ := readTop_error_iff.mpr h
  simp [hok] at he

end PatternLint
