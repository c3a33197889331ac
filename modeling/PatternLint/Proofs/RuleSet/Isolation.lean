import Mathlib.Tactic
import PatternLint.Proofs.Lint.Findings

/-!
# A dropped rule leaves the others alone

The entries of a document are read one after the other, and only the place of an entry is carried from
one to the next: it shows in the error of a malformed entry and nowhere else (`readEntry_succ`).  So a
list is read as its parts are (`readEntries_append`), and putting in an entry that is dropped raises
the places of the later errors and changes nothing else (`readEntries_insert`).
-/

namespace PatternLint

theorem map_eq_ok {α β ε : Type} {x : Except ε α} {f : α → β} {b : β} :
    x.map f = .ok b ↔ ∃ a, x = .ok a ∧ f a = b := by
  cases x with
  | error e => simp [Except.map]
  | ok a => simp [Except.map]

theorem bind_eq_ok {α β ε : Type} {x : Except ε α} {f : α → Except ε β} {b : β}
    (h : (x >>= f) = .ok b) : ∃ a, x = .ok a ∧ f a = .ok b := by
  cases x with
  | error e => cases h
  | ok a => exact ⟨a, rfl, h⟩

/-! ### Places of entries -/

/-- The error of an entry that stands one place further down. -/
def DroppedRule.raised : DroppedRule → DroppedRule
  | .invalid index name problems => .invalid (index + 1) name problems
  | .uncompilable name pattern reason => .uncompilable name pattern reason

def EntryOutcome.raised : EntryOutcome → EntryOutcome
  | .kept r => .kept r
  | .dropped d => .dropped d.raised
  | .failed r source => .failed r source

theorem buildRule_raised (name pattern : String) (documentation : Option String)
    (severity : Severity) (scope : Scope) (literal ignoreCase : Bool) :
    (buildRule name pattern documentation severity scope literal ignoreCase).raised =
      buildRule name pattern documentation severity scope literal ignoreCase := by
  unfold buildRule
  split <;> rfl

/-- The place of an entry shows in the error of a malformed entry only. -/
theorem readEntry_succ (fallback : Severity) (i : Nat) (entry : Document) :
    readEntry fallback (i + 1) entry = (readEntry fallback i entry).raised := by
  cases entry with
  | mapping m =>
    unfold readEntry
    dsimp only
    split
    · rw [buildRule_raised]
    · simp [EntryOutcome.raised, DroppedRule.raised]
  | _ => simp [readEntry, EntryOutcome.raised, DroppedRule.raised]

theorem readEntry_failed_iff {fallback : Severity} {i : Nat} {entry : Document}
    {r : Pattern.Refusal} {source : String} :
    readEntry fallback i entry = .failed r source ↔ readEntry fallback 0 entry = .failed r source := by
  induction i with
  | zero => rfl
  | succ i ih =>
    rw [readEntry_succ, ← ih]
    cases readEntry fallback i entry <;> simp [EntryOutcome.raised]

/-! ### What is malformed -/

/-- An entry that is no mapping, or has a field with a problem. -/
def Malformed (fallback : Severity) : Document → Prop
  | .mapping m => (EntryFields.ofEntries fallback m).problems ≠ []
  | _ => True

theorem problem?_eq_none {α : Type} {x : Except String α} :
    Field.problem? x = none ↔ ∃ a, x = .ok a := by
  cases x with
  | error p => simp [Field.problem?]
  | ok a => simp [Field.problem?]

theorem buildRule_dropped {name pattern : String} {documentation : Option String}
    {severity : Severity} {scope : Scope} {literal ignoreCase : Bool} {d : DroppedRule}
    (h : buildRule name pattern documentation severity scope literal ignoreCase = .dropped d) :
    ∃ reason, d = .uncompilable name pattern reason := by
  unfold buildRule at h
  split at h
  · simp at h
  · simp at h
    exact ⟨_, h.symm⟩
  · simp at h

/-- A malformed entry and a pattern that is refused are told apart by the error. -/
theorem readEntry_dropped {fallback : Severity} {i : Nat} {entry : Document} {d : DroppedRule}
    (h : readEntry fallback i entry = .dropped d) :
    (Malformed fallback entry ∧ ∃ name problems, d = .invalid i name problems) ∨
      (¬ Malformed fallback entry ∧ ∃ name pattern reason, d = .uncompilable name pattern reason) := by
  cases entry with
  | mapping m =>
    unfold readEntry at h
    dsimp only at h
    split at h
    · rename_i name pattern documentation severity includes excludes literal ignoreCase
        h1 h2 h3 h4 h5 h6 h7 h8
      obtain ⟨reason, rfl⟩ := buildRule_dropped h
      refine Or.inr ⟨?_, name, pattern, reason, rfl⟩
      simp [Malformed, EntryFields.problems, h1, h2, h3, h4, h5, h6, h7, h8, Field.problem?]
    · rename_i hbad
      refine Or.inl ⟨fun hnil => ?_, _, _, (EntryOutcome.dropped.inj h).symm⟩
      -- without problems every field is right, which the earlier case has taken
      simp only [EntryFields.problems, List.filterMap_eq_nil_iff, List.mem_cons, id_eq,
        List.not_mem_nil, or_false, forall_eq_or_imp, forall_eq, problem?_eq_none] at hnil
      obtain ⟨⟨a, ha⟩, ⟨b, hb⟩, ⟨c, hc⟩, ⟨s, hs⟩, ⟨x, hx⟩, ⟨y, hy⟩, ⟨l, hl⟩, ⟨g, hg⟩⟩ := hnil
      exact hbad a b c s x y l g ha hb hc hs hx hy hl hg
  | _ => exact Or.inl ⟨trivial, _, _, (EntryOutcome.dropped.inj h).symm⟩

/-! ### Lists of entries -/

namespace EntryLists

def raised (l : EntryLists) : EntryLists := ⟨l.rules, l.dropped.map DroppedRule.raised⟩

def append (a b : EntryLists) : EntryLists := ⟨a.rules ++ b.rules, a.dropped ++ b.dropped⟩

end EntryLists

/-- One step: what an entry adds to what the later ones give. -/
theorem readEntries_cons {fallback : Severity} {i : Nat} {entry : Document} {entries : List Document}
    {l : EntryLists} :
    (readEntries fallback i (entry :: entries)).value = .ok l ↔
      ∃ later, (readEntries fallback (i + 1) entries).value = .ok later ∧
        ((∃ r, readEntry fallback i entry = .kept r ∧ l = ⟨r :: later.rules, later.dropped⟩) ∨
          ∃ d, readEntry fallback i entry = .dropped d ∧ l = ⟨later.rules, d :: later.dropped⟩) := by
  rw [readEntries]
  cases readEntry fallback i entry with
  | kept r =>
    dsimp only
    rw [map_eq_ok]
    constructor
    · rintro ⟨later, hl, rfl⟩
      exact ⟨later, hl, Or.inl ⟨r, rfl, rfl⟩⟩
    · rintro ⟨later, hl, ⟨r', hr, rfl⟩ | ⟨d, hd, -⟩⟩
      · obtain rfl := EntryOutcome.kept.inj hr
        exact ⟨later, hl, rfl⟩
      · simp at hd
  | dropped d =>
    dsimp only
    rw [map_eq_ok]
    constructor
    · rintro ⟨later, hl, rfl⟩
      exact ⟨later, hl, Or.inr ⟨d, rfl, rfl⟩⟩
    · rintro ⟨later, hl, ⟨r, hr, -⟩ | ⟨d', hd, rfl⟩⟩
      · simp at hr
      · obtain rfl := EntryOutcome.dropped.inj hd
        exact ⟨later, hl, rfl⟩
  | failed r source => simp

/-- Where no pattern makes the engine give up, all entries are read. -/
theorem readEntries_total {fallback : Severity} {entries : List Document} (i : Nat)
    (h : ∀ x ∈ entries, ∀ r source, readEntry fallback 0 x ≠ .failed r source) :
    ∃ l, (readEntries fallback i entries).value = .ok l := by
  induction entries generalizing i with
  | nil => exact ⟨⟨[], []⟩, rfl⟩
  | cons entry entries ih =>
    obtain ⟨later, hlater⟩ := ih (i + 1) fun x hx => h x (List.mem_cons_of_mem _ hx)
    cases hread : readEntry fallback i entry with
    | kept r => exact ⟨_, readEntries_cons.mpr ⟨later, hlater, Or.inl ⟨r, hread, rfl⟩⟩⟩
    | dropped d => exact ⟨_, readEntries_cons.mpr ⟨later, hlater, Or.inr ⟨d, hread, rfl⟩⟩⟩
    | failed r source => exact absurd (readEntry_failed_iff.mp hread) (h entry (by simp) r source)

/-- Every entry is kept or dropped. -/
theorem readEntries_length {fallback : Severity} {i : Nat} {entries : List Document} {l : EntryLists}
    (h : (readEntries fallback i entries).value = .ok l) :
    l.rules.length + l.dropped.length = entries.length := by
  induction entries generalizing i l with
  | nil =>
    obtain rfl := Except.ok.inj h
    rfl
  | cons entry entries ih =>
    obtain ⟨later, hlater, ⟨r, -, rfl⟩ | ⟨d, -, rfl⟩⟩ := readEntries_cons.mp h
    · have := ih hlater
      simp only [List.length_cons]
      omega
    · have := ih hlater
      simp only [List.length_cons]
      omega

theorem readEntries_append {fallback : Severity} {i : Nat} {front back : List Document}
    {a b : EntryLists} (ha : (readEntries fallback i front).value = .ok a)
    (hb : (readEntries fallback (i + front.length) back).value = .ok b) :
    (readEntries fallback i (front ++ back)).value = .ok (a.append b) := by
  induction front generalizing i a with
  | nil =>
    obtain rfl := Except.ok.inj ha
    exact hb
  | cons entry front ih =>
    obtain ⟨later, hlater, hone⟩ := readEntries_cons.mp ha
    have hrest := ih hlater (by rwa [List.length_cons, ← Nat.add_assoc, Nat.add_right_comm] at hb)
    rw [List.cons_append, readEntries_cons]
    refine ⟨later.append b, hrest, ?_⟩
    rcases hone with ⟨r, hr, rfl⟩ | ⟨d, hd, rfl⟩
    · exact Or.inl ⟨r, hr, rfl⟩
    · exact Or.inr ⟨d, hd, rfl⟩

theorem readEntries_succ {fallback : Severity} {i : Nat} {entries : List Document} {l : EntryLists}
    (h : (readEntries fallback i entries).value = .ok l) :
    (readEntries fallback (i + 1) entries).value = .ok l.raised := by
  induction entries generalizing i l with
  | nil =>
    obtain rfl := Except.ok.inj h
    rfl
  | cons entry entries ih =>
    obtain ⟨later, hlater, hone⟩ := readEntries_cons.mp h
    refine readEntries_cons.mpr ⟨later.raised, ih hlater, ?_⟩
    rw [readEntry_succ]
    rcases hone with ⟨r, hr, rfl⟩ | ⟨d, hd, rfl⟩
    · exact Or.inl ⟨r, by rw [hr]; rfl, rfl⟩
    · exact Or.inr ⟨d.raised, by rw [hd]; rfl, rfl⟩

/-- An entry that is dropped adds its error at its place and raises the places behind it. -/
theorem readEntries_insert {fallback : Severity} {front back : List Document} {entry : Document}
    {d : DroppedRule} {a b : EntryLists} (ha : (readEntries fallback 0 front).value = .ok a)
    (hb : (readEntries fallback front.length back).value = .ok b)
    (hd : readEntry fallback front.length entry = .dropped d) :
    (readEntries fallback 0 (front ++ entry :: back)).value =
      .ok ⟨a.rules ++ b.rules, a.dropped ++ d :: b.dropped.map DroppedRule.raised⟩ := by
  have hback : (readEntries fallback (0 + front.length) (entry :: back)).value =
      .ok ⟨b.rules, d :: b.dropped.map DroppedRule.raised⟩ := by
    rw [Nat.zero_add, readEntries_cons]
    exact ⟨b.raised, readEntries_succ hb, Or.inr ⟨d, hd, rfl⟩⟩
  exact readEntries_append ha hback

/-! ### Documents -/

theorem readSettings_congr {m m' : Field.Entries}
    (h : ∀ key, key ≠ "rules" → Document.lookup m key = Document.lookup m' key) :
    readSettings m = readSettings m' := by
  unfold readSettings Field.globs Field.defaultSeverity Document.lookupSet
  rw [h "global-include-paths" (by decide), h "global-exclude-paths" (by decide),
    h "default-severity" (by decide)]

theorem readTop_mapping {m : Field.Entries} {entries : List Document} {settings : Settings}
    (hrules : Document.lookup m "rules" = some (.list entries))
    (hset : readSettings m = .ok settings) : readTop (.mapping m) = .ok (settings, entries) := by
  unfold readTop Document.lookupSet
  dsimp only
  rw [hrules, hset]
  rfl

theorem ofDocument_eq {d : Document} {settings : Settings} {entries : List Document}
    {l : EntryLists} (htop : readTop d = .ok (settings, entries))
    (hread : (readEntries settings.fallback 0 entries).value = .ok l) :
    (RuleSet.ofDocument d).value = .ok ⟨⟨l.rules, settings.scope⟩, l.dropped⟩ := by
  unfold RuleSet.ofDocument
  rw [htop]
  dsimp only
  rw [hread]

/-- What is read is read from the entries of the document. -/
theorem ofDocument_ok {d : Document} {parsed : Parsed}
    (h : (RuleSet.ofDocument d).value = .ok parsed) :
    ∃ settings entries, readTop d = .ok (settings, entries) ∧
      (readEntries settings.fallback 0 entries).value =
        .ok ⟨parsed.ruleSet.rules, parsed.dropped⟩ := by
  unfold RuleSet.ofDocument at h
  cases htop : readTop d with
  | error e => simp [htop] at h
  | ok top =>
    obtain ⟨settings, entries⟩ := top
    rw [htop] at h
    dsimp only at h
    cases hread : (readEntries settings.fallback 0 entries).value with
    | error e => simp [hread] at h
    | ok lists =>
      rw [hread] at h
      obtain rfl := Except.ok.inj h
      exact ⟨settings, entries, rfl, hread⟩

/-- What linting with a document reports once it is read. -/
theorem lintDocument_eq {d : Document} {parsed : Parsed}
    (h : (RuleSet.ofDocument d).value = .ok parsed) (files : List (String × String))
    (strict : Bool) (workers : Option Int) :
    lintDocument d files strict workers =
      if workers.any (· < 1) then .error (.engine .tooFewWorkers)
      else .ok {
        annotations := files.flatMap fun f =>
          (⟨parsed.ruleSet, strict, false⟩ : Engine).findingsIn f.1 f.2
        issues := parsed.dropped.map Issue.ofDropped
        filesScanned := files.length } := by
  unfold lintDocument Engine.create
  rw [h]
  dsimp only
  split_ifs with hw
  · rfl
  · dsimp only
    rw [Engine.run_eq]
    simp [LintResult.withLeadingIssues]

theorem ofDropped_kind {fallback : Severity} {i : Nat} {entry : Document} {d : DroppedRule}
    (h : readEntry fallback i entry = .dropped d) :
    ((Issue.ofDropped d).kind = .invalidRule ↔ Malformed fallback entry) ∧
      ((Issue.ofDropped d).kind = .droppedRule ↔ ¬ Malformed fallback entry) := by
  rcases readEntry_dropped h with ⟨hm, name, problems, rfl⟩ | ⟨hm, name, pattern, reason, rfl⟩
  · simp [Issue.ofDropped, hm]
  · simp [Issue.ofDropped, hm]

/-- **A dropped entry touches no other.**  With and without it a document gives the same rules in the
same order; its error stands at its place among the errors, and of the later ones only the places
change.  So linting gives the same findings, and one more issue that says what was dropped. -/
theorem dropped_entry_isolated {m m' : Field.Entries} {settings : Settings}
    {front back : List Document} {entry : Document} {d : DroppedRule}
    (hsame : ∀ key, key ≠ "rules" → Document.lookup m key = Document.lookup m' key)
    (hrules : Document.lookup m "rules" = some (.list (front ++ entry :: back)))
    (hrules' : Document.lookup m' "rules" = some (.list (front ++ back)))
    (hset : readSettings m = .ok settings)
    (hdrop : readEntry settings.fallback front.length entry = .dropped d)
    (hcompile : ∀ x ∈ front ++ back, ∀ r source,
      readEntry settings.fallback 0 x ≠ .failed r source) :
    (∃ (rules : List Rule) (before after : List DroppedRule),
      (∃ kept, (readEntries settings.fallback 0 front).value = .ok ⟨kept, before⟩) ∧
      (RuleSet.ofDocument (.mapping m')).value =
        .ok ⟨⟨rules, settings.scope⟩, before ++ after⟩ ∧
      (RuleSet.ofDocument (.mapping m)).value =
        .ok ⟨⟨rules, settings.scope⟩, before ++ d :: after.map DroppedRule.raised⟩ ∧
      ∀ (files : List (String × String)) (strict : Bool) (workers : Option Int),
        workers.any (· < 1) = false →
        ∃ without extended : LintResult,
          lintDocument (.mapping m') files strict workers = .ok without ∧
          lintDocument (.mapping m) files strict workers = .ok extended ∧
          extended.annotations = without.annotations ∧ extended.verdict = without.verdict ∧
          extended.filesScanned = without.filesScanned ∧
          without.issues = before.map Issue.ofDropped ++ after.map Issue.ofDropped ∧
          extended.issues = before.map Issue.ofDropped ++
            Issue.ofDropped d :: (after.map DroppedRule.raised).map Issue.ofDropped) ∧
    ((Issue.ofDropped d).kind = .invalidRule ↔ Malformed settings.fallback entry) ∧
    ((Issue.ofDropped d).kind = .droppedRule ↔ ¬ Malformed settings.fallback entry) ∧
    ∀ (doc : Document) (parsed : Parsed), (RuleSet.ofDocument doc).value = .ok parsed →
      ∃ settings entries, readTop doc = .ok (settings, entries) ∧
        parsed.ruleSet.rules.length + parsed.dropped.length = entries.length := by
  obtain ⟨a, ha⟩ := readEntries_total 0 fun x hx => hcompile x (List.mem_append_left _ hx)
  obtain ⟨b, hb⟩ := readEntries_total front.length
    fun x hx => hcompile x (List.mem_append_right _ hx)
  have hwithout := ofDocument_eq (readTop_mapping hrules' (readSettings_congr hsame ▸ hset))
    (readEntries_append ha (by rwa [Nat.zero_add]))
  have hextended := ofDocument_eq (readTop_mapping hrules hset) (readEntries_insert ha hb hdrop)
  obtain ⟨hinvalid, hrefused⟩ := ofDropped_kind hdrop
  refine ⟨⟨a.rules ++ b.rules, a.dropped, b.dropped, ⟨a.rules, ha⟩, hwithout, hextended, ?_⟩,
    hinvalid, hrefused, ?_⟩
  · intro files strict workers hworkers
    have h1 := lintDocument_eq hwithout files strict workers
    have h2 := lintDocument_eq hextended files strict workers
    rw [hworkers, if_neg (by decide)] at h1 h2
    exact ⟨_, _, h1, h2, rfl, rfl, rfl, List.map_append, List.map_append⟩
  · intro doc parsed hparsed
    obtain ⟨settings, entries, htop, hread⟩ := ofDocument_ok hparsed
    exact ⟨settings, entries, htop, readEntries_length hread⟩

/-- An entry with a name and a pattern. -/
def entryOf (name pattern : String) : Document :=
  .mapping [("name", .text name), ("pattern", .text pattern)]

/-- An open group that is never closed is dropped between a rule and an entry that is no mapping. -/
theorem unclosed_group_isolated :
    ∃ (d : DroppedRule) (rules : List Rule) (before after : List DroppedRule),
      readEntry .error 1 (entryOf "b" "(") = .dropped d ∧
      (RuleSet.ofDocument (.mapping [("rules", .list [entryOf "a" "x", .int 7])])).value =
        .ok ⟨⟨rules, .everywhere⟩, before ++ after⟩ ∧
      (RuleSet.ofDocument
        (.mapping [("rules", .list [entryOf "a" "x", entryOf "b" "(", .int 7])])).value =
        .ok ⟨⟨rules, .everywhere⟩, before ++ d :: after.map DroppedRule.raised⟩ ∧
      ¬ Malformed .error (entryOf "b" "(") ∧ (Issue.ofDropped d).kind = .droppedRule := by
  have hsame : ∀ key, key ≠ "rules" →
      Document.lookup [("rules", .list [entryOf "a" "x", entryOf "b" "(", .int 7])] key =
        Document.lookup [("rules", .list [entryOf "a" "x", .int 7])] key := by
    intro key hkey
    simp [Document.lookup, List.lookup_cons, beq_eq_false_iff_ne.mpr hkey]
  have hrules : Document.lookup [("rules", .list [entryOf "a" "x", entryOf "b" "(", .int 7])] "rules" =
      some (.list ([entryOf "a" "x"] ++ entryOf "b" "(" :: [.int 7])) := rfl
  have hrules' : Document.lookup [("rules", .list [entryOf "a" "x", .int 7])] "rules" =
      some (.list ([entryOf "a" "x"] ++ [.int 7])) := rfl
  have hset : readSettings [("rules", .list [entryOf "a" "x", entryOf "b" "(", .int 7])] =
      .ok ⟨.everywhere, .error⟩ := rfl
  have hdrop : readEntry .error 1 (entryOf "b" "(") =
      .dropped (.uncompilable "b" "(" "missing ), unterminated subpattern at position 0") := rfl
  have hcompile : ∀ x ∈ [entryOf "a" "x"] ++ [.int 7], ∀ r source,
      readEntry .error 0 x ≠ .failed r source := by
    intro x hx r source
    obtain rfl | rfl : x = entryOf "a" "x" ∨ x = .int 7 := by simpa using hx
    · exact fun h => EntryOutcome.noConfusion h
    · exact fun h => EntryOutcome.noConfusion h
  obtain ⟨⟨rules, before, after, -, hwithout, hextended, -⟩, -, hkind, -⟩ :=
    dropped_entry_isolated hsame hrules hrules' hset hdrop hcompile
  exact ⟨_, rules, before, after, hdrop, hwithout, hextended, hkind.mp rfl, rfl⟩

end PatternLint
