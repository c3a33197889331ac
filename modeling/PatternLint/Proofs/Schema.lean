import PatternLint.Proofs.RuleSet.Refusal
import PatternLint.Proofs.Text.Blank
import PatternLint.Proofs.Text.Decimal
import PatternLint.Proofs.Text.LetterCase
import PatternLint.Schema

/-!
# Documents that the schema admits

`Valid` is the meaning of a schema: every keyword that asserts something holds of the document, and all
other keywords only describe it.  A document that the rule-set schema admits is usable as a whole, and the
fields of its entries are right but for one thing the schema cannot say: a name must not be blank, while
the schema only asks for one character.  So exactly the entries with a blank name are dropped as malformed.
-/

namespace PatternLint.Schema

open PatternLint.Text

/-! ### The meaning of a schema -/

/-- The keywords that assert something. -/
inductive Keyword
  | type
  | required
  | properties
  | items
  | enum
  | minLength
  | ref
  deriving DecidableEq, Repr

def Keyword.ofName? : String → Option Keyword
  | "type" => some .type
  | "required" => some .required
  | "properties" => some .properties
  | "items" => some .items
  | "enum" => some .enum
  | "minLength" => some .minLength
  | "$ref" => some .ref
  | _ => none

/-- The types that a value has. -/
def typeNames : Document → List String
  | .null => ["null"]
  | .bool _ => ["boolean"]
  | .int _ => ["integer", "number"]
  | .text _ => ["string"]
  | .list _ => ["array"]
  | .mapping _ => ["object"]
  | .other .float => ["number"]
  | .other _ => []

/-- A document is the value that a schema names; objects are compared field by field, in any order. -/
inductive Equals : Json → Document → Prop
  | null : Equals .null .null
  | bool (b : Bool) : Equals (.bool b) (.bool b)
  | int (n : Int) : Equals (.int n) (.int n)
  | str (s : String) : Equals (.str s) (.text s)
  | arr {vs : List Json} {items : List Document} (h : List.Forall₂ Equals vs items) :
      Equals (.arr vs) (.list items)
  | obj {fs : List (String × Json)} {m : Field.Entries}
      (hnames : ∀ k, (∃ v, (k, v) ∈ fs) ↔ ∃ d, Document.lookup m k = some d)
      (h : ∀ k v d, (k, v) ∈ fs → Document.lookup m k = some d → Equals v d) :
      Equals (.obj fs) (.mapping m)

/-- The part of a schema that a list of names leads to. -/
def follow : Json → List String → Option Json
  | schema, [] => some schema
  | .obj fields, n :: names => (fields.lookup n).bind (follow · names)
  | _, _ => none

/-- The part of a schema that a reference names. -/
def resolve (root : Json) (reference : String) : Option Json :=
  match pieces '/' reference with
  | "#" :: names => follow root names
  | _ => none

mutual

/-- A document is valid if every keyword of the schema holds of it; references are looked up in
`root`. -/
inductive Valid (root : Json) : Json → Document → Prop
  | intro {keywords : List (String × Json)} {d : Document}
      (h : ∀ name v k, (name, v) ∈ keywords → Keyword.ofName? name = some k → Holds root k v d) :
      Valid root (.obj keywords) d

/-- A keyword with its value holds of a document; a keyword about other types holds of it too. -/
inductive Holds (root : Json) : Keyword → Json → Document → Prop
  | type {name : String} {d : Document} (h : name ∈ typeNames d) : Holds root .type (.str name) d
  | required {names : List Json} {d : Document}
      (h : ∀ m n, d = .mapping m → .str n ∈ names → ∃ v, Document.lookup m n = some v) :
      Holds root .required (.arr names) d
  | properties {fields : List (String × Json)} {d : Document}
      (h : ∀ m n s v, d = .mapping m → (n, s) ∈ fields → Document.lookup m n = some v →
        Valid root s v) :
      Holds root .properties (.obj fields) d
  | items {s : Json} {d : Document} (h : ∀ xs x, d = .list xs → x ∈ xs → Valid root s x) :
      Holds root .items s d
  | enum {vs : List Json} {d : Document} (h : ∃ v ∈ vs, Equals v d) : Holds root .enum (.arr vs) d
  | minLength {n : Int} {d : Document} (h : ∀ s, d = .text s → n ≤ s.length) :
      Holds root .minLength (.int n) d
  | ref {reference : String} {target : Json} {d : Document} (hr : resolve root reference = some target)
      (h : Valid root target d) : Holds root .ref (.str reference) d

end

section Keywords

variable {root : Json} {d : Document}

@[simp] theorem valid_nil : Valid root (.obj []) d := .intro (by simp)

/-- A schema asserts what its keywords assert, one by one. -/
theorem valid_cons {name : String} {v : Json} {keywords : List (String × Json)} :
    Valid root (.obj ((name, v) :: keywords)) d ↔
      (∀ k, Keyword.ofName? name = some k → Holds root k v d) ∧ Valid root (.obj keywords) d := by
  constructor
  · rintro ⟨h⟩
    refine ⟨fun k hk => h name v k List.mem_cons_self hk, .intro fun name' v' k hmem hk => ?_⟩
    exact h name' v' k (List.mem_cons_of_mem _ hmem) hk
  · rintro ⟨hfirst, ⟨hrest⟩⟩
    refine .intro fun name' v' k hmem hk => ?_
    rcases List.mem_cons.mp hmem with heq | hmem
    · obtain ⟨rfl, rfl⟩ := Prod.mk.inj heq
      exact hfirst k hk
    · exact hrest name' v' k hmem hk

theorem valid_keyword {name : String} {k : Keyword} {v : Json} {keywords : List (String × Json)}
    (hk : Keyword.ofName? name = some k) :
    Valid root (.obj ((name, v) :: keywords)) d ↔ Holds root k v d ∧ Valid root (.obj keywords) d := by
  simp [valid_cons, hk]

theorem valid_remark {name : String} {v : Json} {keywords : List (String × Json)}
    (hk : Keyword.ofName? name = none) :
    Valid root (.obj ((name, v) :: keywords)) d ↔ Valid root (.obj keywords) d := by
  simp [valid_cons, hk]

@[simp] theorem holds_type {name : String} : Holds root .type (.str name) d ↔ name ∈ typeNames d :=
  ⟨fun (.type h) => h, .type⟩

@[simp] theorem holds_required {names : List Json} :
    Holds root .required (.arr names) d ↔
      ∀ m n, d = .mapping m → .str n ∈ names → ∃ v, Document.lookup m n = some v :=
  ⟨fun (.required h) => h, .required⟩

@[simp] theorem holds_properties {fields : List (String × Json)} :
    Holds root .properties (.obj fields) d ↔
      ∀ m n s v, d = .mapping m → (n, s) ∈ fields → Document.lookup m n = some v → Valid root s v :=
  ⟨fun (.properties h) => h, .properties⟩

@[simp] theorem holds_items {s : Json} :
    Holds root .items s d ↔ ∀ xs x, d = .list xs → x ∈ xs → Valid root s x :=
  ⟨fun (.items h) => h, .items⟩

@[simp] theorem holds_enum {vs : List Json} :
    Holds root .enum (.arr vs) d ↔ ∃ v ∈ vs, Equals v d :=
  ⟨fun (.enum h) => h, .enum⟩

@[simp] theorem holds_minLength {n : Int} :
    Holds root .minLength (.int n) d ↔ ∀ s, d = .text s → n ≤ s.length :=
  ⟨fun (.minLength h) => h, .minLength⟩

theorem holds_ref {reference : String} {target : Json} (hr : resolve root reference = some target) :
    Holds root .ref (.str reference) d ↔ Valid root target d := by
  constructor
  · intro h
    cases h with
    | ref hr' h =>
      obtain rfl := Option.some.inj (hr.symm.trans hr')
      exact h
  · exact .ref hr

theorem equals_str {s : String} : Equals (.str s) d ↔ d = .text s := by
  constructor
  · rintro ⟨⟩
    rfl
  · rintro rfl
    exact .str s

end Keywords

/-! ### The parts of the rule-set schema -/

section Parts

variable {root : Json} {d : Document}

theorem string_mem_typeNames : "string" ∈ typeNames d ↔ ∃ s, d = .text s := by
  cases d with
  | other kind => cases kind <;> simp [typeNames]
  | _ => simp [typeNames]

theorem boolean_mem_typeNames : "boolean" ∈ typeNames d ↔ ∃ b, d = .bool b := by
  cases d with
  | other kind => cases kind <;> simp [typeNames]
  | _ => simp [typeNames]

theorem array_mem_typeNames : "array" ∈ typeNames d ↔ ∃ xs, d = .list xs := by
  cases d with
  | other kind => cases kind <;> simp [typeNames]
  | _ => simp [typeNames]

theorem object_mem_typeNames : "object" ∈ typeNames d ↔ ∃ m, d = .mapping m := by
  cases d with
  | other kind => cases kind <;> simp [typeNames]
  | _ => simp [typeNames]

theorem valid_described {kind description : String} :
    Valid root (described kind description) d ↔ kind ∈ typeNames d := by
  rw [described, valid_keyword rfl, valid_remark rfl]
  simp

theorem valid_string : Valid root (.obj [("type", .str "string")]) d ↔ ∃ s, d = .text s := by
  rw [valid_keyword rfl, holds_type, string_mem_typeNames]
  simp

theorem valid_name {description : Json} :
    Valid root (.obj [("type", .str "string"), ("minLength", .int 1),
      ("description", description)]) d ↔ ∃ s, d = .text s ∧ s ≠ "" := by
  rw [valid_keyword rfl, valid_keyword rfl, valid_remark rfl, holds_type, string_mem_typeNames,
    holds_minLength]
  have hlength : ∀ s : String, (1 : Int) ≤ s.length ↔ s ≠ "" := by
    intro s
    have hzero : s.length = 0 ↔ s = "" := String.length_eq_zero_iff
    rw [Ne, ← hzero]
    omega
  constructor
  · rintro ⟨⟨s, rfl⟩, hmin, -⟩
    exact ⟨s, rfl, (hlength s).mp (hmin s rfl)⟩
  · rintro ⟨s, rfl, hs⟩
    refine ⟨⟨s, rfl⟩, ?_, valid_nil⟩
    rintro _ ⟨⟩
    exact (hlength s).mpr hs

theorem isTexts_list {xs : List Document} (h : ∀ x ∈ xs, ∃ s, x = .text s) :
    (Document.list xs).IsTexts := by
  induction xs with
  | nil => exact ⟨[], rfl⟩
  | cons x xs ih =>
    obtain ⟨s, rfl⟩ := h x List.mem_cons_self
    obtain ⟨ss, hss⟩ := ih fun y hy => h y (List.mem_cons_of_mem _ hy)
    exact ⟨s :: ss, by rw [List.map_cons, ← Document.list.inj hss]⟩

theorem valid_globList {description : String} :
    Valid root (globList description) d ↔ d.IsTexts := by
  rw [globList, valid_keyword rfl, valid_keyword rfl, valid_remark rfl, holds_type,
    array_mem_typeNames, holds_items]
  simp only [valid_string, valid_nil, and_true]
  constructor
  · rintro ⟨⟨xs, rfl⟩, hitems⟩
    exact isTexts_list fun x hx => hitems xs x rfl hx
  · rintro ⟨xs, rfl⟩
    refine ⟨⟨_, rfl⟩, ?_⟩
    rintro _ x ⟨⟩ hx
    obtain ⟨s, -, rfl⟩ := List.mem_map.mp hx
    exact ⟨s, rfl⟩

theorem valid_severity {name : String} {v : Json} (hk : Keyword.ofName? name = none) :
    Valid root (.obj (severityFields ++ [(name, v)])) d ↔ ∃ s : Severity, d = .text s.name := by
  have hopen : severityFields ++ [(name, v)] =
      [("type", .str "string"), ("enum", .arr [.str "warning", .str "error"]), (name, v)] := rfl
  rw [hopen, valid_keyword rfl, valid_keyword rfl, valid_remark hk, holds_type,
    string_mem_typeNames, holds_enum]
  simp only [List.mem_cons, List.not_mem_nil, or_false, exists_eq_or_imp, exists_eq_left, equals_str,
    valid_nil, and_true]
  constructor
  · rintro ⟨-, rfl | rfl⟩
    · exact ⟨.warning, rfl⟩
    · exact ⟨.error, rfl⟩
  · rintro ⟨s, rfl⟩
    refine ⟨⟨_, rfl⟩, ?_⟩
    cases s
    · exact Or.inl rfl
    · exact Or.inr rfl

end Parts

theorem namesSeverity_name (s : Severity) : (Document.text s.name).NamesSeverity := by
  have hstrip : strip s.name.toList = s.name.toList := by
    cases s <;> decide
  have hsmall : ∀ c ∈ s.name.toList, c.toNat < 128 ∧ ¬ (65 ≤ c.toNat ∧ c.toNat ≤ 90) := by
    cases s <;> decide
  exact ⟨s.name, s, rfl, by rw [hstrip, toLower_eq_self hsmall]⟩

/-- The fields of an entry have the types that the schema asks for; a field that may be absent is only
asked about where it is present. -/
structure WellTyped (m : Field.Entries) : Prop where
  name : ∃ v, Document.lookup m "name" = some v ∧ ∃ s, v = .text s ∧ s ≠ ""
  pattern : ∃ s, Document.lookup m "pattern" = some (.text s)
  documentation : ∀ v, Document.lookup m "documentation" = some v → ∃ s, v = .text s
  severity : ∀ v, Document.lookup m "severity" = some v → ∃ s : Severity, v = .text s.name
  includes : ∀ v, Document.lookup m "overridden-include-paths" = some v → v.IsTexts
  excludes : ∀ v, Document.lookup m "overridden-exclude-paths" = some v → v.IsTexts
  literal : ∀ v, Document.lookup m "literal" = some v → ∃ b, v = .bool b
  ignoreCase : ∀ v, Document.lookup m "ignore-case" = some v → ∃ b, v = .bool b

theorem valid_rule_iff {root : Json} {d : Document} :
    Valid root rule d ↔ ∃ m, d = .mapping m ∧ WellTyped m := by
  rw [rule, valid_keyword rfl, valid_keyword rfl, valid_keyword rfl, holds_type,
    object_mem_typeNames, holds_required, holds_properties]
  constructor
  · rintro ⟨⟨m, rfl⟩, hrequired, hproperties, -⟩
    have hvalid : ∀ {n s v}, (n, s) ∈ _ → Document.lookup m n = some v → Valid root s v :=
      fun hmem hv => hproperties m _ _ _ rfl hmem hv
    refine ⟨m, rfl, ?_, ?_, ?_, ?_, ?_, ?_, ?_, ?_⟩
    · obtain ⟨v, hv⟩ := hrequired m "name" rfl (by simp)
      exact ⟨v, hv, valid_name.mp (hvalid (List.mem_of_getElem? (i := 0) rfl) hv)⟩
    · obtain ⟨v, hv⟩ := hrequired m "pattern" rfl (by simp)
      have hpattern := hvalid (List.mem_of_getElem? (i := 1) rfl) hv
      obtain ⟨s, rfl⟩ := string_mem_typeNames.mp (valid_described.mp hpattern)
      exact ⟨s, hv⟩
    · intro v hv
      have hdoc := hvalid (List.mem_of_getElem? (i := 2) rfl) hv
      exact string_mem_typeNames.mp (valid_described.mp hdoc)
    · intro v hv
      exact (valid_severity rfl).mp (hvalid (List.mem_of_getElem? (i := 3) rfl) hv)
    · intro v hv
      exact valid_globList.mp (hvalid (List.mem_of_getElem? (i := 4) rfl) hv)
    · intro v hv
      exact valid_globList.mp (hvalid (List.mem_of_getElem? (i := 5) rfl) hv)
    · intro v hv
      have hliteral := hvalid (List.mem_of_getElem? (i := 6) rfl) hv
      exact boolean_mem_typeNames.mp (valid_described.mp hliteral)
    · intro v hv
      have hcase := hvalid (List.mem_of_getElem? (i := 7) rfl) hv
      rw [valid_keyword rfl, holds_type] at hcase
      exact boolean_mem_typeNames.mp hcase.1
  · rintro ⟨m, rfl, h⟩
    obtain ⟨name, hname, hright⟩ := h.name
    obtain ⟨pattern, hpattern⟩ := h.pattern
    refine ⟨⟨m, rfl⟩, ?_, ?_, valid_nil⟩
    · rintro _ n ⟨⟩ hn
      simp only [List.mem_cons, Json.str.injEq, List.not_mem_nil, or_false] at hn
      rcases hn with rfl | rfl
      · exact ⟨name, hname⟩
      · exact ⟨.text pattern, hpattern⟩
    · rintro _ n s v ⟨⟩ hmem hv
      simp only [List.mem_cons, Prod.mk.injEq, List.not_mem_nil, or_false] at hmem
      rcases hmem with ⟨rfl, rfl⟩ | ⟨rfl, rfl⟩ | ⟨rfl, rfl⟩ | ⟨rfl, rfl⟩ | ⟨rfl, rfl⟩ | ⟨rfl, rfl⟩ |
        ⟨rfl, rfl⟩ | ⟨rfl, rfl⟩
      · obtain rfl := Option.some.inj (hname.symm.trans hv)
        exact valid_name.mpr hright
      · obtain rfl := Option.some.inj (hpattern.symm.trans hv)
        exact valid_described.mpr (string_mem_typeNames.mpr ⟨pattern, rfl⟩)
      · exact valid_described.mpr (string_mem_typeNames.mpr (h.documentation v hv))
      · exact (valid_severity rfl).mpr (h.severity v hv)
      · exact valid_globList.mpr (h.includes v hv)
      · exact valid_globList.mpr (h.excludes v hv)
      · exact valid_described.mpr (boolean_mem_typeNames.mpr (h.literal v hv))
      · rw [valid_keyword rfl, holds_type]
        exact ⟨boolean_mem_typeNames.mpr (h.ignoreCase v hv), valid_nil⟩

/-- The documents that the schema of rule sets admits. -/
def Admits (d : Document) : Prop := Valid document document d

/-- The settings of a document have the types that the schema asks for, and its entries are
well-typed. -/
structure WellFormed (m : Field.Entries) (entries : List Document) : Prop where
  rules : Document.lookup m "rules" = some (.list entries)
  entries : ∀ x ∈ entries, ∃ e, x = .mapping e ∧ WellTyped e
  paths : ∀ key v, key = "global-include-paths" ∨ key = "global-exclude-paths" →
    Document.lookup m key = some v → v.IsTexts
  severity : ∀ v, Document.lookup m "default-severity" = some v → ∃ s : Severity, v = .text s.name

theorem valid_rules {d : Document} :
    Valid document (.obj [("type", .str "array"),
      ("items", .obj [("$ref", .str "#/$defs/rule")])]) d ↔
      ∃ entries, d = .list entries ∧ ∀ x ∈ entries, ∃ e, x = .mapping e ∧ WellTyped e := by
  have hentry : ∀ x, Valid document (.obj [("$ref", .str "#/$defs/rule")]) x ↔
      ∃ e, x = .mapping e ∧ WellTyped e := by
    intro x
    have htarget : resolve document "#/$defs/rule" = some rule := rfl
    rw [valid_keyword rfl, holds_ref htarget, valid_rule_iff]
    exact and_iff_left valid_nil
  rw [valid_keyword rfl, valid_keyword rfl, holds_type, array_mem_typeNames, holds_items]
  simp only [hentry, valid_nil, and_true]
  constructor
  · rintro ⟨⟨entries, rfl⟩, h⟩
    exact ⟨entries, rfl, fun x hx => h entries x rfl hx⟩
  · rintro ⟨entries, rfl, h⟩
    refine ⟨⟨entries, rfl⟩, ?_⟩
    rintro _ x ⟨⟩ hx
    exact h x hx

theorem admits_iff {d : Document} :
    Admits d ↔ ∃ m entries, d = .mapping m ∧ WellFormed m entries := by
  rw [Admits]
  nth_rewrite 2 [document]
  rw [valid_remark rfl, valid_remark rfl, valid_remark rfl, valid_keyword rfl,
    valid_keyword rfl, valid_keyword rfl, valid_remark rfl, holds_type, object_mem_typeNames,
    holds_required, holds_properties]
  constructor
  · rintro ⟨⟨m, rfl⟩, hrequired, hproperties, -⟩
    have hvalid : ∀ {n s v}, (n, s) ∈ _ → Document.lookup m n = some v → Valid document s v :=
      fun hmem hv => hproperties m _ _ _ rfl hmem hv
    obtain ⟨v, hv⟩ := hrequired m "rules" rfl (by simp)
    obtain ⟨entries, rfl, hentries⟩ :=
      valid_rules.mp (hvalid (List.mem_of_getElem? (i := 3) rfl) hv)
    refine ⟨m, entries, rfl, hv, hentries, ?_, fun v hv => ?_⟩
    · rintro key v (rfl | rfl) hv
      · exact valid_globList.mp (hvalid (List.mem_of_getElem? (i := 0) rfl) hv)
      · exact valid_globList.mp (hvalid (List.mem_of_getElem? (i := 1) rfl) hv)
    · exact (valid_severity rfl).mp (hvalid (List.mem_of_getElem? (i := 2) rfl) hv)
  · rintro ⟨m, entries, rfl, h⟩
    refine ⟨⟨m, rfl⟩, ?_, ?_, valid_nil⟩
    · rintro _ n ⟨⟩ hn
      simp only [List.mem_cons, Json.str.injEq, List.not_mem_nil, or_false] at hn
      subst hn
      exact ⟨_, h.rules⟩
    · rintro _ n s v ⟨⟩ hmem hv
      simp only [List.mem_cons, Prod.mk.injEq, List.not_mem_nil, or_false] at hmem
      rcases hmem with ⟨rfl, rfl⟩ | ⟨rfl, rfl⟩ | ⟨rfl, rfl⟩ | ⟨rfl, rfl⟩
      · exact valid_globList.mpr (h.paths _ v (Or.inl rfl) hv)
      · exact valid_globList.mpr (h.paths _ v (Or.inr rfl) hv)
      · exact (valid_severity rfl).mpr (h.severity v hv)
      · obtain rfl := Option.some.inj (h.rules.symm.trans hv)
        exact valid_rules.mpr ⟨entries, rfl, h.entries⟩

theorem WellFormed.not_unusable {m : Field.Entries} {entries : List Document}
    (h : WellFormed m entries) : ¬ (Document.mapping m).Unusable := by
  intro hbad
  cases hbad with
  | noMapping hno => exact hno m rfl
  | noRules hno => exact hno entries h.rules
  | paths hkey hv _ hno => exact hno (h.paths _ _ hkey hv)
  | severity hv hno =>
    obtain ⟨s, rfl⟩ := h.severity _ hv
    exact hno (namesSeverity_name s)

/-! ### Entries with a blank name -/

/-- What is said about a blank name. -/
def nameProblem : String := "'name' must be a non-empty string"

/-- Whether the name of an entry is a text of blanks only. -/
def hasBlankName : Document → Bool
  | .mapping m =>
    match Document.lookup m "name" with
    | some (.text s) => s.toList.all Blank
    | _ => false
  | _ => false

theorem ok_of_no_error {ε α : Type} {x : Except ε α} (h : ¬ ∃ e, x = .error e) : ∃ a, x = .ok a := by
  cases x with
  | error e => exact absurd ⟨e, rfl⟩ h
  | ok a => exact ⟨a, rfl⟩

theorem globs_ok {key label : String} {m : Field.Entries}
    (h : ∀ v, Document.lookup m key = some v → v.IsTexts) : ∃ x, Field.globs key label m = .ok x := by
  refine ok_of_no_error fun herror => ?_
  obtain ⟨v, hv, -, hno⟩ := Field.globs_error_iff.mp herror
  exact hno (h v hv)

theorem flag_ok {key : String} {m : Field.Entries}
    (h : ∀ v, Document.lookup m key = some v → ∃ b, v = .bool b) : ∃ x, Field.flag key m = .ok x := by
  unfold Field.flag
  cases hset : Document.lookupSet m key with
  | none => exact ⟨false, rfl⟩
  | some v =>
    obtain ⟨b, rfl⟩ := h v (Document.lookupSet_eq_some.mp hset).1
    exact ⟨b, rfl⟩

section Entries

variable {m : Field.Entries} (h : WellTyped m) (fallback : Severity)

include h

theorem name_of_wellTyped :
    if hasBlankName (.mapping m) then Field.name m = .error nameProblem
    else ∃ n, Field.name m = .ok n := by
  obtain ⟨_, hs, s, rfl, -⟩ := h.name
  have hblank : hasBlankName (.mapping m) ↔ strip s.toList = [] := by
    simp [hasBlankName, hs, strip_eq_nil_iff]
  unfold Field.name
  rw [hs]
  dsimp only
  split_ifs with hname hempty
  · rfl
  · exact absurd (List.isEmpty_iff.mpr (hblank.mp hname)) hempty
  · exact absurd (hblank.mpr (List.isEmpty_iff.mp ‹_›)) hname
  · exact ⟨_, rfl⟩

theorem fields_of_wellTyped :
    (∃ x, Field.pattern m = .ok x) ∧ (∃ x, Field.documentation m = .ok x) ∧
      (∃ x, Field.severity fallback m = .ok x) ∧
      (∃ x, Field.globs "overridden-include-paths" "'overridden-include-paths'" m = .ok x) ∧
      (∃ x, Field.globs "overridden-exclude-paths" "'overridden-exclude-paths'" m = .ok x) ∧
      (∃ x, Field.flag "literal" m = .ok x) ∧ ∃ x, Field.flag "ignore-case" m = .ok x := by
  refine ⟨?_, ?_, ?_, globs_ok h.includes, globs_ok h.excludes, flag_ok h.literal,
    flag_ok h.ignoreCase⟩
  · obtain ⟨s, hs⟩ := h.pattern
    exact ⟨s, by rw [Field.pattern, hs, Option.getD_some]⟩
  · unfold Field.documentation
    cases hset : Document.lookupSet m "documentation" with
    | none => exact ⟨none, rfl⟩
    | some v =>
      obtain ⟨s, rfl⟩ := h.documentation v (Document.lookupSet_eq_some.mp hset).1
      exact ⟨_, rfl⟩
  · unfold Field.severity
    cases hset : Document.lookupSet m "severity" with
    | none => exact ⟨fallback, rfl⟩
    | some v =>
      obtain ⟨s, rfl⟩ := h.severity v (Document.lookupSet_eq_some.mp hset).1
      refine ok_of_no_error fun herror => ?_
      exact Field.severityValue_error_iff.mp herror (namesSeverity_name s)

/-- A well-typed entry is malformed exactly if its name is blank, and then says nothing else. -/
theorem readEntry_of_wellTyped (i : Nat) :
    if hasBlankName (.mapping m) then
      readEntry fallback i (.mapping m) = .dropped (.invalid i none [nameProblem])
    else ¬ Malformed fallback (.mapping m) := by
  have hname := name_of_wellTyped h
  obtain ⟨⟨b, hb⟩, ⟨c, hc⟩, ⟨s, hs⟩, ⟨x, hx⟩, ⟨y, hy⟩, ⟨l, hl⟩, ⟨g, hg⟩⟩ :=
    fields_of_wellTyped h fallback
  split_ifs at hname ⊢ with hblank
  · unfold readEntry
    simp [EntryFields.ofEntries, EntryFields.problems, hname, hb, hc, hs, hx, hy, hl, hg,
      Field.problem?, Except.toOption]
  · obtain ⟨a, ha⟩ := hname
    simp [Malformed, EntryFields.ofEntries, EntryFields.problems, ha, hb, hc, hs, hx, hy, hl, hg,
      Field.problem?]

end Entries

/-- Whether a rule was left out because its entry is malformed. -/
def isInvalid : DroppedRule → Bool
  | .invalid _ _ _ => true
  | .uncompilable _ _ _ => false

/-- The errors of the entries with a blank name, from number `i` on. -/
def blankErrors (i : Nat) (entries : List Document) : List DroppedRule :=
  ((entries.zipIdx i).filter fun p => hasBlankName p.1).map fun p =>
    .invalid p.2 none [nameProblem]

/-- Of well-typed entries exactly those with a blank name are dropped as malformed. -/
theorem invalid_of_readEntries {fallback : Severity} {i : Nat} {entries : List Document}
    {l : EntryLists} (hentries : ∀ x ∈ entries, ∃ e, x = .mapping e ∧ WellTyped e)
    (hread : (readEntries fallback i entries).value = .ok l) :
    l.dropped.filter isInvalid = blankErrors i entries := by
  induction entries generalizing i l with
  | nil =>
    obtain rfl := Except.ok.inj hread
    rfl
  | cons x entries ih =>
    obtain ⟨later, hlater, hfirst⟩ := readEntries_cons.mp hread
    have hrest := ih (fun y hy => hentries y (List.mem_cons_of_mem _ hy)) hlater
    obtain ⟨e, rfl, he⟩ := hentries x List.mem_cons_self
    have hentry := readEntry_of_wellTyped he fallback i
    unfold blankErrors at hrest ⊢
    rw [List.zipIdx_cons, List.filter_cons]
    rcases hfirst with ⟨r, hr, rfl⟩ | ⟨d, hd, rfl⟩
    · split_ifs at hentry ⊢ with hblank
      · simp [hr] at hentry
      · exact hrest
    · split_ifs at hentry ⊢ with hblank
      · obtain rfl := EntryOutcome.dropped.inj (hd.symm.trans hentry)
        rw [List.map_cons, List.filter_cons_of_pos rfl, hrest]
      · rcases readEntry_dropped hd with ⟨hm, -⟩ | ⟨-, name, pattern, reason, rfl⟩
        · exact absurd hm hentry
        · rw [List.filter_cons_of_neg (by simp [isInvalid]), hrest]

/-- **Admitted documents are read.**  A document that the schema admits is never refused as a whole, and
of its entries exactly those with a blank name are dropped as malformed, each with this one problem.  Only
the engine may still give up on a pattern, which the schema says nothing about. -/
theorem admitted_documents_read (d : Document) (h : Admits d) :
    ∃ m entries, d = .mapping m ∧ Document.lookup m "rules" = some (.list entries) ∧
      (∀ e, (RuleSet.ofDocument d).value ≠ .error (.unusable e)) ∧
      ((∃ parsed, (RuleSet.ofDocument d).value = .ok parsed ∧
          parsed.dropped.filter isInvalid = blankErrors 0 entries) ∨
        ∃ fallback r source, (RuleSet.ofDocument d).value = .error (.engine r source) ∧
          FirstGivesUp fallback entries r source) := by
  obtain ⟨m, entries, rfl, hm⟩ := admits_iff.mp h
  obtain ⟨settings, hsettings⟩ : ∃ settings, readSettings m = .ok settings := by
    refine ok_of_no_error fun ⟨e, he⟩ => ?_
    refine hm.not_unusable (readTop_error_iff.mp ⟨e, ?_⟩)
    rw [readTop_list hm.rules, he]
    rfl
  have htop : readTop (.mapping m) = .ok (settings, entries) := by
    rw [readTop_list hm.rules, hsettings]
    rfl
  refine ⟨m, entries, rfl, hm.rules, fun e he => ?_, ?_⟩
  · rcases ofDocument_error_iff.mp he with ⟨c, hc, -⟩ | ⟨settings', entries', -, hread⟩
    · simp [htop] at hc
    · obtain ⟨r, source, hengine, -⟩ := readEntries_error_iff.mp hread
      simp at hengine
  · cases hread : (readEntries settings.fallback 0 entries).value with
    | ok l =>
      exact Or.inl ⟨_, ofDocument_eq htop hread, invalid_of_readEntries hm.entries hread⟩
    | error e =>
      obtain ⟨r, source, rfl, hfirst⟩ := readEntries_error_iff.mp hread
      refine Or.inr ⟨settings.fallback, r, source, ?_, hfirst⟩
      exact ofDocument_error_iff.mpr (Or.inr ⟨settings, entries, htop, hread⟩)

/-- Settings, an entry with several fields, and an entry whose name is blank. -/
def mixedDocument : Document :=
  .mapping [("global-exclude-paths", .list [.text "vendor/"]),
    ("rules", .list [
      .mapping [("name", .text "a"), ("pattern", .text "x"), ("documentation", .text "why"),
        ("overridden-include-paths", .list [.text "*.py"]), ("literal", .bool true)],
      entryOf " " "y"])]

theorem wellTyped_entryOf {name : String} (h : name ≠ "") (pattern : String) :
    WellTyped [("name", .text name), ("pattern", .text pattern)] where
  name := ⟨_, rfl, name, rfl, h⟩
  pattern := ⟨pattern, rfl⟩
  documentation := by rintro v ⟨⟩
  severity := by rintro v ⟨⟩
  includes := by rintro v ⟨⟩
  excludes := by rintro v ⟨⟩
  literal := by rintro v ⟨⟩
  ignoreCase := by rintro v ⟨⟩

/-- The second entry is dropped as malformed, the first one is kept. -/
theorem mixedDocument_read :
    Admits mixedDocument ∧
      ∃ parsed, (RuleSet.ofDocument mixedDocument).value = .ok parsed ∧
        parsed.ruleSet.ruleNames = ["a"] ∧
        parsed.dropped.filter isInvalid = [.invalid 1 none [nameProblem]] := by
  have hadmits : Admits mixedDocument := by
    refine admits_iff.mpr ⟨_, _, rfl, rfl, ?_, ?_, ?_⟩
    · intro x hx
      simp only [List.mem_cons, List.not_mem_nil, or_false] at hx
      rcases hx with rfl | rfl
      · refine ⟨_, rfl, ⟨_, rfl, "a", rfl, by decide⟩, ⟨"x", rfl⟩, ?_, ?_, ?_, ?_, ?_, ?_⟩
        · rintro v ⟨⟩
          exact ⟨"why", rfl⟩
        · rintro v ⟨⟩
        · rintro v ⟨⟩
          exact ⟨["*.py"], rfl⟩
        · rintro v ⟨⟩
        · rintro v ⟨⟩
          exact ⟨true, rfl⟩
        · rintro v ⟨⟩
      · exact ⟨_, rfl, wellTyped_entryOf (by decide) "y"⟩
    · rintro key v (rfl | rfl) hv
      · cases hv
      · obtain rfl := Option.some.inj hv
        exact ⟨["vendor/"], rfl⟩
    · rintro v ⟨⟩
  obtain ⟨m, entries, hm, hrules, -, ⟨parsed, hparsed, hinvalid⟩ | ⟨_, r, source, hfails, -⟩⟩ :=
    admitted_documents_read mixedDocument hadmits
  · obtain rfl := Document.mapping.inj hm
    obtain rfl := Document.list.inj (Option.some.inj hrules)
    refine ⟨hadmits, parsed, hparsed, ?_, hinvalid⟩
    obtain rfl := Except.ok.inj hparsed
    rfl
  · have hread : ∃ parsed, (RuleSet.ofDocument mixedDocument).value = .ok parsed := ⟨_, rfl⟩
    obtain ⟨parsed, hparsed⟩ := hread
    simp [hparsed] at hfails

/-- One entry with a pattern and a name that is blank. -/
def blankName : Document := .mapping [("rules", .list [entryOf " " "x"])]

/-- The schema admits the entry, but it is dropped as malformed. -/
theorem blankName_dropped :
    Admits blankName ∧
      (RuleSet.ofDocument blankName).value =
        .ok ⟨⟨[], .everywhere⟩, [.invalid 0 none ["'name' must be a non-empty string"]]⟩ := by
  refine ⟨admits_iff.mpr ⟨_, _, rfl, rfl, ?_, ?_, ?_⟩, rfl⟩
  · simp only [List.mem_singleton, forall_eq]
    exact ⟨_, rfl, wellTyped_entryOf (by decide) "x"⟩
  · rintro key v (rfl | rfl) hv
    · cases hv
    · cases hv
  · rintro v ⟨⟩

end PatternLint.Schema
