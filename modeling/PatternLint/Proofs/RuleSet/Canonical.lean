import Mathlib.Logic.Relation
import Mathlib.Tactic
import PatternLint.Proofs.Text.Blank
import PatternLint.RuleSet.Reading

/-!
# Documents that are read alike

`Document.Edit` lists the changes of a document that do not count: keys that nobody asks for, the order of
the keys, a null in the place of a key that is left out, an empty documentation and blanks around a name.
`Document.canonical` keeps of a document only what is asked for, in one order and one spelling.

An edit does not change the canonical form (`Edit.canonical_eq`), and reading a document and reading its
canonical form are the same, errors and messages included (`ofDocument_canonical`).  So documents that
edits lead from one to the other are read alike.
-/

namespace PatternLint

open PatternLint.Text

namespace Document

/-! ### Looking up a key -/

section Lookup

variable {m m' front back : Field.Entries} {key k : String} {v : Document}

theorem lookup_append (m m' : Field.Entries) (key : String) :
    lookup (m ++ m') key = (lookup m' key).or (lookup m key) := by
  unfold lookup
  rw [List.reverse_append, List.lookup_append]

theorem lookup_cons (k key : String) (v : Document) (m : Field.Entries) :
    lookup ((k, v) :: m) key = (lookup m key).or (if key = k then some v else none) := by
  rw [← List.singleton_append, lookup_append]
  unfold lookup
  rw [List.reverse_singleton, List.lookup_cons, List.lookup_nil]
  by_cases hkey : key = k
  · rw [if_pos hkey, beq_iff_eq.mpr hkey]
  · rw [if_neg hkey, beq_eq_false_iff_ne.mpr hkey]

/-- The value of an entry counts for its key unless a later entry has that key too. -/
theorem lookup_middle (front back : Field.Entries) (k key : String) (v : Document) :
    lookup (front ++ (k, v) :: back) key =
      (lookup back key).or ((if key = k then some v else none).or (lookup front key)) := by
  rw [lookup_append, lookup_cons, Option.or_assoc]

theorem lookup_middle_of_ne (h : key ≠ k) :
    lookup (front ++ (k, v) :: back) key = lookup (front ++ back) key := by
  rw [lookup_middle, lookup_append, if_neg h, Option.none_or]

theorem lookup_eq_none (h : ∀ p ∈ m, p.1 ≠ key) : lookup m key = none := by
  unfold lookup
  rw [List.lookup_eq_none_iff]
  intro p hp
  exact bne_iff_ne.mpr (h p (List.mem_reverse.mp hp)).symm

/-- The order of the entries does not count where their keys differ. -/
theorem lookup_of_perm (h : m.Perm m') (hkeys : (m.map Prod.fst).Nodup) :
    lookup m key = lookup m' key := by
  induction h with
  | nil => rfl
  | cons p _ ih =>
    rw [lookup_cons, lookup_cons, ih (List.nodup_cons.mp hkeys).2]
  | swap p q m =>
    have hne : q.1 ≠ p.1 := by
      intro heq
      exact (List.nodup_cons.mp hkeys).1 (heq ▸ List.mem_cons_self)
    rw [lookup_cons, lookup_cons, lookup_cons, lookup_cons, Option.or_assoc, Option.or_assoc]
    by_cases hp : key = p.1
    · have hq : key ≠ q.1 := fun hq => hne (hq.symm.trans hp)
      rw [if_neg hq, Option.or_none, Option.none_or]
    · rw [if_neg hp, Option.or_none, Option.none_or]
  | trans h₁ _ ih₁ ih₂ =>
    exact (ih₁ hkeys).trans (ih₂ ((h₁.map Prod.fst).nodup_iff.mp hkeys))

end Lookup

/-! ### Edits -/

/-- The keys that are asked for in a rule entry. -/
def entryKeys : List String :=
  ["name", "pattern", "documentation", "severity", "overridden-include-paths",
    "overridden-exclude-paths", "literal", "ignore-case"]

/-- The keys that are asked for at the top of a document. -/
def settingKeys : List String :=
  ["rules", "global-include-paths", "global-exclude-paths", "default-severity"]

/-- The keys at the top that may be null.  A null default severity names no severity. -/
def nullableSettings : List String := ["rules", "global-include-paths", "global-exclude-paths"]

/-- Changes of a mapping in which the keys `known` are asked for and `nullable` may be null. -/
inductive MappingEdit (known nullable : List String) : Field.Entries → Field.Entries → Prop
  | unknown (front back : Field.Entries) (key : String) (v : Document) (hkey : key ∉ known) :
      MappingEdit known nullable (front ++ back) (front ++ (key, v) :: back)
  | reorder {m m' : Field.Entries} (hkeys : (m.map Prod.fst).Nodup) (hperm : m.Perm m') :
      MappingEdit known nullable m m'
  | null (front back : Field.Entries) (key : String) (hkey : key ∈ nullable)
      (habsent : ∀ p ∈ front ++ back, p.1 ≠ key) :
      MappingEdit known nullable (front ++ back) (front ++ (key, .null) :: back)

/-- Changes of a rule entry. -/
inductive EntryEdit : Field.Entries → Field.Entries → Prop
  | mapping {m m' : Field.Entries} (h : MappingEdit entryKeys entryKeys m m') : EntryEdit m m'
  | documentation (front back : Field.Entries)
      (habsent : ∀ p ∈ front ++ back, p.1 ≠ "documentation") :
      EntryEdit (front ++ back) (front ++ ("documentation", .text "") :: back)
  | name (front back : Field.Entries) (before s after : String)
      (hbefore : ∀ c ∈ before.toList, Blank c) (hafter : ∀ c ∈ after.toList, Blank c) :
      EntryEdit (front ++ ("name", .text s) :: back)
        (front ++ ("name", .text (before ++ s ++ after)) :: back)

/-- Changes of a document, at its top or in one of its rule entries. -/
inductive Edit : Document → Document → Prop
  | settings {m m' : Field.Entries} (h : MappingEdit settingKeys nullableSettings m m') :
      Edit (.mapping m) (.mapping m')
  | entry (front back : Field.Entries) (before after : List Document) {m m' : Field.Entries}
      (h : EntryEdit m m') :
      Edit (.mapping (front ++ ("rules", .list (before ++ .mapping m :: after)) :: back))
        (.mapping (front ++ ("rules", .list (before ++ .mapping m' :: after)) :: back))

/-- Any number of edits lead from one document to the other, each of them made or undone. -/
def Alike : Document → Document → Prop := Relation.EqvGen Edit

/-! ### The canonical form -/

/-- The mapping that gives each of some keys the value that `f` gives it, if there is one. -/
def tabulate (keys : List String) (f : String → Option Document) : Field.Entries :=
  keys.filterMap fun key => (f key).map (key, ·)

/-- What counts of a field of an entry. -/
def canonicalField (key : String) : Option Document → Option Document
  | some .null => none
  | some (.text s) =>
    if key = "name" then some (.text (String.ofList (strip s.toList)))
    else if key = "documentation" ∧ s = "" then none
    else some (.text s)
  | v => v

/-- The fields of an entry that are asked for, each as far as it counts. -/
def canonicalFields (m : Field.Entries) : Field.Entries :=
  tabulate entryKeys fun key => canonicalField key (lookup m key)

def canonicalEntry : Document → Document
  | .mapping m => .mapping (canonicalFields m)
  | v => v

/-- What counts of a field at the top of a document. -/
def canonicalSetting (key : String) : Option Document → Option Document
  | some .null => if key ∈ nullableSettings then none else some .null
  | some (.list items) =>
    if key = "rules" then some (.list (items.map canonicalEntry)) else some (.list items)
  | v => v

def canonicalSettings (m : Field.Entries) : Field.Entries :=
  tabulate settingKeys fun key => canonicalSetting key (lookup m key)

def canonical : Document → Document
  | .mapping m => .mapping (canonicalSettings m)
  | v => v

theorem mem_keys_of_mem_tabulate {keys : List String} {f : String → Option Document}
    {p : String × Document} (hp : p ∈ tabulate keys f) : p.1 ∈ keys := by
  obtain ⟨key, hkey, hmap⟩ := List.mem_filterMap.mp hp
  obtain ⟨v, -, rfl⟩ := Option.map_eq_some_iff.mp hmap
  exact hkey

theorem lookup_tabulate {keys : List String} (hkeys : keys.Nodup) (f : String → Option Document)
    {key : String} (hkey : key ∈ keys) : lookup (tabulate keys f) key = f key := by
  induction keys with
  | nil => simp at hkey
  | cons k keys ih =>
    obtain ⟨hk, hnodup⟩ := List.nodup_cons.mp hkeys
    have hcons : tabulate (k :: keys) f = ((f k).map (k, ·)).toList ++ tabulate keys f := by
      unfold tabulate
      rw [List.filterMap_cons]
      cases f k <;> rfl
    have hfirst : lookup ((f k).map (k, ·)).toList key = if key = k then f k else none := by
      cases f k with
      | none => simp [lookup]
      | some v =>
        rw [Option.map_some, Option.toList_some, lookup_cons]
        rfl
    rw [hcons, lookup_append, hfirst]
    rcases List.mem_cons.mp hkey with rfl | hmem
    · have hlater : lookup (tabulate keys f) key = none := by
        refine lookup_eq_none fun p hp => ?_
        rintro rfl
        exact hk (mem_keys_of_mem_tabulate hp)
      rw [hlater, if_pos rfl, Option.none_or]
    · have hne : key ≠ k := by
        rintro rfl
        exact hk hmem
      rw [ih hnodup hmem, if_neg hne, Option.or_none]

theorem tabulate_congr {keys : List String} {f g : String → Option Document}
    (h : ∀ key ∈ keys, f key = g key) : tabulate keys f = tabulate keys g := by
  refine List.filterMap_congr fun key hkey => ?_
  rw [h key hkey]

theorem lookup_canonicalFields (m : Field.Entries) {key : String} (hkey : key ∈ entryKeys) :
    lookup (canonicalFields m) key = canonicalField key (lookup m key) :=
  lookup_tabulate (by decide) _ hkey

theorem lookup_canonicalSettings (m : Field.Entries) {key : String} (hkey : key ∈ settingKeys) :
    lookup (canonicalSettings m) key = canonicalSetting key (lookup m key) :=
  lookup_tabulate (by decide) _ hkey

/-! ### Edits keep the canonical form -/

/-- What depends on the values of the known keys, and does not tell null from nothing where null may
stand, does not see a change of a mapping. -/
theorem MappingEdit.congr {known nullable : List String} {m m' : Field.Entries}
    (h : MappingEdit known nullable m m') (f : String → Option Document → Option Document)
    (hnull : ∀ key ∈ nullable, f key (some .null) = f key none) {key : String} (hkey : key ∈ known) :
    f key (lookup m key) = f key (lookup m' key) := by
  cases h with
  | unknown front back k v hunknown =>
    rw [lookup_middle_of_ne]
    rintro rfl
    exact hunknown hkey
  | reorder hkeys hperm => rw [lookup_of_perm hperm hkeys]
  | null front back k hk habsent =>
    by_cases hkk : key = k
    · subst hkk
      have hnone : lookup (front ++ back) key = none := lookup_eq_none habsent
      have hnull' : lookup (front ++ (key, .null) :: back) key = some .null := by
        rw [lookup_append, Option.or_eq_none_iff] at hnone
        rw [lookup_middle, hnone.1, if_pos rfl]
        rfl
      rw [hnone, hnull', hnull key hk]
    · rw [lookup_middle_of_ne hkk]

theorem EntryEdit.canonicalFields_eq {m m' : Field.Entries} (h : EntryEdit m m') :
    canonicalFields m = canonicalFields m' := by
  refine tabulate_congr fun key hkey => ?_
  cases h with
  | mapping h => exact h.congr canonicalField (fun _ _ => rfl) hkey
  | documentation front back habsent =>
    by_cases hdoc : key = "documentation"
    · subst hdoc
      have hnone := lookup_eq_none habsent
      rw [hnone]
      rw [lookup_append, Option.or_eq_none_iff] at hnone
      rw [lookup_middle, hnone.1, if_pos rfl]
      rfl
    · rw [lookup_middle_of_ne hdoc]
  | name front back before s after hbefore hafter =>
    by_cases hname : key = "name"
    · subst hname
      rw [lookup_middle, lookup_middle]
      cases lookup back "name" with
      | some v => rfl
      | none =>
        have hstrip := strip_surrounded (s := s.toList) hbefore hafter
        simp [canonicalField, ← hstrip]
    · rw [lookup_middle_of_ne hname, lookup_middle_of_ne hname]

theorem Edit.canonical_eq {d d' : Document} (h : Edit d d') : d.canonical = d'.canonical := by
  cases h with
  | settings h =>
    refine congrArg mapping (tabulate_congr fun key hkey => ?_)
    refine h.congr canonicalSetting (fun key hnull => ?_) hkey
    simp [canonicalSetting, hnull]
  | entry front back before after h =>
    refine congrArg mapping (tabulate_congr fun key hkey => ?_)
    by_cases hrules : key = "rules"
    · subst hrules
      rw [lookup_middle, lookup_middle]
      cases lookup back "rules" with
      | some v => rfl
      | none => simp [canonicalSetting, canonicalEntry, h.canonicalFields_eq]
    · rw [lookup_middle_of_ne hrules, lookup_middle_of_ne hrules]

theorem Alike.canonical_eq {d d' : Document} (h : Alike d d') : d.canonical = d'.canonical := by
  induction h with
  | rel d d' hedit => exact hedit.canonical_eq
  | refl d => rfl
  | symm d d' _ ih => exact ih.symm
  | trans d d' d'' _ _ ih ih' => exact ih.trans ih'

end Document

/-! ### Reading the canonical form -/

open Document

section Entries

variable (m : Field.Entries)

theorem lookupSet_canonicalFields {key : String} (hkey : key ∈ entryKeys) (hname : key ≠ "name")
    (hdoc : key ≠ "documentation") : lookupSet (canonicalFields m) key = lookupSet m key := by
  unfold lookupSet
  rw [lookup_canonicalFields m hkey]
  cases lookup m key with
  | none => rfl
  | some v => cases v <;> simp [canonicalField, hname, hdoc]

theorem name_canonicalFields : Field.name (canonicalFields m) = Field.name m := by
  unfold Field.name
  rw [lookup_canonicalFields m (by decide)]
  cases lookup m "name" with
  | none => rfl
  | some v => cases v <;> simp [canonicalField, strip_strip]

theorem pattern_canonicalFields : Field.pattern (canonicalFields m) = Field.pattern m := by
  unfold Field.pattern
  rw [lookup_canonicalFields m (by decide)]
  cases lookup m "pattern" with
  | none => rfl
  | some v => cases v <;> simp [canonicalField]

theorem documentation_canonicalFields :
    Field.documentation (canonicalFields m) = Field.documentation m := by
  unfold Field.documentation lookupSet
  rw [lookup_canonicalFields m (by decide)]
  cases lookup m "documentation" with
  | none => rfl
  | some v =>
    cases v with
    | text s => by_cases hs : s = "" <;> simp [canonicalField, hs]
    | _ => simp [canonicalField]

theorem ofEntries_canonicalFields (fallback : Severity) :
    EntryFields.ofEntries fallback (canonicalFields m) = EntryFields.ofEntries fallback m := by
  unfold EntryFields.ofEntries Field.severity Field.globs Field.flag
  rw [name_canonicalFields, pattern_canonicalFields, documentation_canonicalFields]
  simp (disch := decide) only [lookupSet_canonicalFields]

end Entries

theorem readEntry_canonicalEntry (fallback : Severity) (i : Nat) (entry : Document) :
    readEntry fallback i (canonicalEntry entry) = readEntry fallback i entry := by
  cases entry with
  | mapping m =>
    unfold readEntry canonicalEntry
    dsimp only
    rw [ofEntries_canonicalFields]
  | _ => rfl

theorem readEntries_map_canonicalEntry (fallback : Severity) (i : Nat) (entries : List Document) :
    readEntries fallback i (entries.map canonicalEntry) = readEntries fallback i entries := by
  induction entries generalizing i with
  | nil => rfl
  | cons entry entries ih =>
    rw [List.map_cons, readEntries, readEntries, readEntry_canonicalEntry, ih]

theorem readSettings_canonicalSettings (m : Field.Entries) :
    readSettings (canonicalSettings m) = readSettings m := by
  have hglobs : ∀ key ∈ ["global-include-paths", "global-exclude-paths"],
      lookupSet (canonicalSettings m) key = lookupSet m key := by
    intro key hkey
    have hrules : key ≠ "rules" := by
      rintro rfl
      exact absurd hkey (by decide)
    have hnull : key ∈ nullableSettings := List.mem_cons_of_mem _ hkey
    unfold lookupSet
    rw [lookup_canonicalSettings m (List.mem_append_left ["default-severity"] hnull)]
    cases lookup m key with
    | none => rfl
    | some v => cases v <;> simp [canonicalSetting, hrules, hnull]
  have hfallback : lookup (canonicalSettings m) "default-severity" = lookup m "default-severity" := by
    rw [lookup_canonicalSettings m (by decide)]
    cases lookup m "default-severity" with
    | none => rfl
    | some v => cases v <;> rfl
  unfold readSettings Field.globs Field.defaultSeverity
  rw [hglobs _ (by decide), hglobs _ (by decide), hfallback]

theorem readTop_canonical (d : Document) :
    readTop d.canonical = (readTop d).map fun top => (top.1, top.2.map canonicalEntry) := by
  cases d with
  | mapping m =>
    unfold readTop canonical lookupSet
    dsimp only
    rw [lookup_canonicalSettings m (by decide), readSettings_canonicalSettings]
    cases lookup m "rules" with
    | none => rfl
    | some v =>
      cases v with
      | list entries => cases readSettings m <;> rfl
      | _ => rfl
  | _ => rfl

theorem ofDocument_canonical (d : Document) :
    RuleSet.ofDocument d.canonical = RuleSet.ofDocument d := by
  unfold RuleSet.ofDocument
  rw [readTop_canonical]
  cases readTop d with
  | error e => rfl
  | ok top =>
    obtain ⟨settings, entries⟩ := top
    simp only [Except.map, readEntries_map_canonicalEntry]

/-- **Documents that edits lead from one to the other are read alike.**  Keys that nobody asks for, the
order of the keys, null in the place of a key that is left out, an empty documentation and blanks around
a name do not change the rules, the errors of the entries or the error of the document. -/
theorem alike_documents_read_alike :
    (∀ d : Document, RuleSet.ofDocument d.canonical = RuleSet.ofDocument d) ∧
    ∀ d d' : Document, d.Alike d' →
      d.canonical = d'.canonical ∧ RuleSet.ofDocument d = RuleSet.ofDocument d' := by
  refine ⟨ofDocument_canonical, fun d d' h => ⟨h.canonical_eq, ?_⟩⟩
  calc RuleSet.ofDocument d
      = RuleSet.ofDocument d.canonical := (ofDocument_canonical d).symm
    _ = RuleSet.ofDocument d'.canonical := by rw [h.canonical_eq]
    _ = RuleSet.ofDocument d' := ofDocument_canonical d'

/-- A rule with a pattern that is refused, and one without a name. -/
def sparseDocument : Document :=
  .mapping [
    ("rules", .list [
      .mapping [("name", .text "a"), ("pattern", .text "(")],
      .mapping [("pattern", .int 3)]]),
    ("global-exclude-paths", .list [.text "v/"])]

/-- The same with all that does not count. -/
def ornateDocument : Document :=
  .mapping [
    ("version", .int 1),
    ("global-exclude-paths", .list [.text "v/"]),
    ("global-include-paths", .null),
    ("rules", .list [
      .mapping [("documentation", .text ""), ("name", .text " a\n"), ("pattern", .text "("),
        ("severity", .null), ("tags", .list [])],
      .mapping [("pattern", .int 3)]])]

theorem sparse_alike_ornate : sparseDocument.Alike ornateDocument := by
  set version : String × Document := ("version", .int 1)
  set excludes : String × Document := ("global-exclude-paths", .list [.text "v/"])
  set includes : String × Document := ("global-include-paths", .null)
  set unnamed : Document := .mapping [("pattern", .int 3)]
  have hentry : ∀ {m m' : Field.Entries}, EntryEdit m m' → Document.Alike
      (.mapping [version, excludes, includes, ("rules", .list [.mapping m, unnamed])])
      (.mapping [version, excludes, includes, ("rules", .list [.mapping m', unnamed])]) :=
    fun h => .rel _ _ (.entry [version, excludes, includes] [] [] [unnamed] h)
  refine .trans _ _ _ (.rel _ _ (.settings (.reorder (by decide) (.swap _ _ [])))) ?_
  refine .trans _ _ _ (.rel _ _ (.settings
    (.null [excludes] _ "global-include-paths" (by decide) (by simp [excludes])))) ?_
  refine .trans _ _ _ (.rel _ _ (.settings (.unknown [] _ "version" (.int 1) (by decide)))) ?_
  refine .trans _ _ _ (hentry (.name [] _ " " _ "\n" (by decide) (by decide))) ?_
  refine .trans _ _ _ (hentry (.documentation [] _ (by simp))) ?_
  refine .trans _ _ _ (hentry (.mapping (.null [_, _, _] [] "severity" (by decide) (by simp)))) ?_
  exact hentry (.mapping (.unknown [_, _, _, _] [] "tags" (.list []) (by decide)))

theorem ornate_read_alike :
    sparseDocument.Alike ornateDocument ∧
      (RuleSet.ofDocument ornateDocument).value = .ok ⟨⟨[], ⟨none, some ["v/"]⟩⟩,
        [.uncompilable "a" "(" "missing ), unterminated subpattern at position 0",
          .invalid 1 none ["'name' must be a non-empty string",
            "'pattern' must be a string, got int"]]⟩ := by
  refine ⟨sparse_alike_ornate, ?_⟩
  rw [← (alike_documents_read_alike.2 _ _ sparse_alike_ornate).2]
  rfl

end PatternLint
