import PatternLint.Proofs.RuleSet.Loading
import PatternLint.Proofs.RuleSet.Refusal
import PatternLint.Proofs.Text.Utf8
import PatternLint.Proofs.Yaml.Faults
import PatternLint.Proofs.Yaml.Walk

/-!
# Rule files in JSON

A rule file is read as YAML, whatever its name.  If it holds a portable JSON text, then the rule set that
comes out of it is that of the text's value exactly if no tab stands between two tokens of the text; a file
with such a tab is refused (`json_file_loads_iff`).
-/

namespace PatternLint

open PatternLint.Text

/-! ### Texts -/

theorem Yaml.load_source {t : Json.Source} (h : t.isPortable) :
    Yaml.load (String.ofList (unifyLineEnds t.chars)) =
      if t.isTabbed then .error .malformed else .ok t.value := by
  split_ifs with htab
  · have htokens := Yaml.tokens_textWith h
    rw [if_pos htab, ← Json.unifyLineEnds_chars] at htokens
    exact Yaml.load_of_fault (by rw [String.toList_ofList, htokens])
  · rw [Bool.not_eq_true] at htab
    exact Yaml.load_portable h htab

/-! ### Files -/

namespace RuleSet

/-- What is said of a file that breaks the rules of its format. -/
def malformedMessage (p : Path) : String :=
  "Rule set " ++ p.text ++ " is not valid YAML/JSON: " ++ Yaml.Fault.malformed.message

section Files

variable {v : Volume} {path : String} {t : Json.Source}

theorem documentIn_json {p : Path} (hpath : Char.ofNat 0 ∉ p.text.toList)
    (hread : v.read p = .ok (encode t.text)) (h : t.isPortable) :
    documentIn v p = if t.isTabbed then .error (.unusable (malformedMessage p)) else .ok t.value := by
  have hdecode : decode (encode t.text) = .ok t.text := decode_eq_ok_iff.mpr rfl
  have hload := Yaml.load_source h
  unfold documentIn
  rw [if_neg (by simpa using hpath), hread]
  dsimp only
  rw [hdecode]
  dsimp only
  rw [Json.Source.text, String.toList_ofList, hload]
  split_ifs
  · rfl
  · rfl

theorem load_json (hpath : Char.ofNat 0 ∉ (Path.ofString path).text.toList)
    (hread : v.read (Path.ofString path) = .ok (encode t.text)) (h : t.isPortable) :
    (load v path).value =
      if t.isTabbed then .error (.unusable (malformedMessage (Path.ofString path)))
      else (ofDocument t.value).value.mapError .document := by
  have hdocument := documentIn_json hpath hread h
  split_ifs with htab
  · rw [if_pos htab] at hdocument
    exact load_of_error hdocument
  · rw [if_neg htab] at hdocument
    exact load_of_ok hdocument

end Files

/-! ### Messages -/

theorem suffix_malformedMessage (p : Path) :
    "malformed document".toList <:+ (malformedMessage p).toList := by
  rw [malformedMessage, String.toList_append]
  exact List.suffix_append _ _

theorem kindName_mem (d : Document) :
    d.kindName ∈ ["NoneType", "bool", "int", "str", "list", "dict", "float", "date", "datetime", "bytes",
      "set", "tuple"] := by
  cases d with
  | other kind => cases kind <;> decide
  | _ => simp [Document.kindName]

theorem not_suffix_kind (before : String) (d : Document) :
    ¬ "malformed document".toList <:+ (before ++ d.kindName).toList := by
  have hall : ∀ kind ∈ ["NoneType", "bool", "int", "str", "list", "dict", "float", "date", "datetime",
      "bytes", "set", "tuple"],
      kind.toList.length ≤ "malformed document".toList.length ∧
        ¬ kind.toList <:+ "malformed document".toList := by
    decide
  obtain ⟨hlength, hnot⟩ := hall _ (kindName_mem d)
  intro h
  rw [String.toList_append] at h
  exact hnot (List.suffix_of_suffix_length_le (List.suffix_append _ _) h hlength)

theorem not_suffix_problems (count : String) :
    ¬ "malformed document".toList <:+ ("Rule set has " ++ count ++ " problem(s)").toList := by
  rintro ⟨before, hbefore⟩
  have hlast := congrArg List.getLast? hbefore
  rw [String.toList_append, List.getLast?_append, List.getLast?_append] at hlast
  exact absurd hlast (by simp)

theorem readSettings_summary {fields : Field.Entries} {e : ConfigurationError}
    (h : readSettings fields = .error e) :
    ∃ count : String, e.summary = "Rule set has " ++ count ++ " problem(s)" := by
  unfold readSettings at h
  dsimp only at h
  split at h
  · cases h
  · cases h
    exact ⟨_, rfl⟩

/-- No document is refused for breaking the rules of a format. -/
theorem summary_ne {d : Document} {e : ConfigurationError} (h : readTop d = .error e) (p : Path) :
    e.summary ≠ malformedMessage p := by
  intro heq
  have hsuffix := suffix_malformedMessage p
  rw [← heq] at hsuffix
  unfold readTop at h
  split at h
  · split at h
    · cases h
      exact absurd hsuffix (by decide)
    · obtain ⟨count, hcount⟩ := readSettings_summary (map_eq_error.mp h)
      rw [hcount] at hsuffix
      exact not_suffix_problems _ hsuffix
    · cases h
      exact not_suffix_kind _ _ hsuffix
  · cases h
    exact not_suffix_kind _ _ hsuffix

theorem value_ne_malformed (d : Document) (p : Path) :
    (ofDocument d).value.mapError LoadFailure.document ≠
      .error (.unusable (malformedMessage p)) := by
  intro heq
  cases hvalue : (ofDocument d).value with
  | ok parsed =>
    rw [hvalue] at heq
    cases heq
  | error f =>
    rw [hvalue] at heq
    have hf : f = .unusable ⟨malformedMessage p, []⟩ := by
      have hdocument := Except.error.inj heq
      exact LoadFailure.document.inj hdocument
    rcases ofDocument_error_iff.mp hvalue with ⟨c, hc, hfc⟩ | ⟨settings, entries, -, hentries⟩
    · rw [hf] at hfc
      have hcc := ReadFailure.unusable.inj hfc
      exact summary_ne hc p (by rw [← hcc])
    · rw [hf] at hentries
      obtain ⟨r, source, hengine, -⟩ := readEntries_error_iff.mp hentries
      cases hengine

/-! ### JSON files -/

/-- **A rule file with a portable JSON text gives what the text's value gives, exactly if no tab stands
between its tokens.**  Otherwise the file is refused. -/
theorem json_file_loads_iff {v : Volume} {path : String} {t : Json.Source}
    (hpath : Char.ofNat 0 ∉ (Path.ofString path).text.toList)
    (hread : v.read (Path.ofString path) = .ok (encode t.text)) (h : t.isPortable) :
    ((load v path).value = (ofDocument t.value).value.mapError .document ↔ t.isTabbed = false) ∧
      (t.isTabbed = true → ∃ reason : String,
        (load v path).value = .error (.unusable
          ("Rule set " ++ (Path.ofString path).text ++ " is not valid YAML/JSON: " ++ reason))) := by
  have hload := load_json hpath hread h
  by_cases htab : t.isTabbed = true
  · rw [if_pos htab] at hload
    refine ⟨⟨fun heq => ?_, fun hnone => ?_⟩, fun _ => ⟨_, hload⟩⟩
    · rw [hload] at heq
      exact absurd heq.symm (value_ne_malformed _ _)
    · rw [htab] at hnone
      cases hnone
  · rw [if_neg htab] at hload
    exact ⟨⟨fun _ => by simpa using htab, fun _ => hload⟩, fun hsome => absurd hsome htab⟩

-- What is not portable is read in another way or not at all: here an exponent without a sign, a name on
-- the line before its colon, and a control character in a string.
example : (Yaml.load "[1e5]").toOption.bind Document.texts? = some ["1e5"] := by decide +kernel

example : Yaml.load "\x7b\"a\"\n: 1\x7d" = .error .malformed := rfl

example : Yaml.load "[\"\x7f\"]" = .error .malformed := rfl

/-- A volume with a single file. -/
def holding (t : Json.Source) : Volume :=
  ⟨["w"], [([], .directory), (["w"], .directory), (["w", "rules.json"], .file (encode t.text))]⟩

theorem read_holding (t : Json.Source) :
    (holding t).read (Path.ofString "rules.json") = .ok (encode t.text) := rfl

/-- A string that is written without escapes. -/
def plainString (s : String) (h : ∀ c ∈ s.toList, 32 ≤ c.toNat ∧ c ≠ doubleQuote ∧ c ≠ '\\') :
    List Json.Piece :=
  s.toList.attach.map fun c => .raw c.1 (h c.1 c.2).1 (h c.1 c.2).2.1 (h c.1 c.2).2.2

/-- A text of several lines, with escapes and a number that is not whole. -/
def wideRules : Json.Source :=
  let none : Json.Blanks := ⟨[], by decide⟩
  let blank : Json.Blanks := ⟨[' '], by decide⟩
  let line : Json.Blanks := ⟨['\r', '\n', ' '], by decide⟩
  let name : List Json.Piece :=
    [.raw 'a' (by decide) (by decide) (by decide), .numbered ['0', '0', '6', '2'] 98 rfl (by decide),
      .short '/' '/' (by decide)]
  let entry : Json.Fields :=
    .more (.mk none (plainString "name" (by decide)) none blank (.str name) none)
      (.one (.mk blank (plainString "pattern" (by decide)) blank none
        (.str (plainString "x" (by decide))) none))
  let version : Json.Number := ⟨true, 1, some ⟨['5'], by decide, by decide⟩,
    some ⟨true, some false, ⟨['3'], by decide, by decide⟩⟩⟩
  ⟨none,
    .object (.more
      (.mk line (plainString "rules" (by decide)) none blank
        (.list (.one (.mk line (.object entry) line))) none)
      (.one (.mk line (plainString "version" (by decide)) none blank (.number version) line))),
    line⟩

theorem wideRules_loads :
    wideRules.text =
        "\x7b\r\n \"rules\": [\r\n \x7b\"name\": \"a\\u0062\\/\", \"pattern\" :\"x\"\x7d\r\n ],\r\n " ++
          "\"version\": -1.5E-3\r\n \x7d\r\n " ∧
      wideRules.isPortable = true ∧ wideRules.isTabbed = false ∧
      (load (holding wideRules) "rules.json").value =
        (ofDocument wideRules.value).value.mapError .document := by
  have hportable : wideRules.isPortable = true := by decide
  have htab : wideRules.isTabbed = false := by decide
  have hiff := json_file_loads_iff (by decide) (read_holding wideRules) hportable
  exact ⟨by decide, hportable, htab, hiff.1.mpr htab⟩

/-- A text that is indented with a tab. -/
def tabbedRules : Json.Source :=
  let none : Json.Blanks := ⟨[], by decide⟩
  let blank : Json.Blanks := ⟨[' '], by decide⟩
  ⟨none,
    .object (.one (.mk ⟨['\n', '\t'], by decide⟩ (plainString "rules" (by decide)) none blank
      (.emptyList none) ⟨['\n'], by decide⟩)),
    none⟩

/-- Its value is a rule set without rules, and yet the file is refused. -/
theorem tabbedRules_refused :
    tabbedRules.text = "\x7b\n\t\"rules\": []\n\x7d" ∧
      (ofDocument tabbedRules.value).value = .ok ⟨⟨[], .everywhere⟩, []⟩ ∧
      ∃ reason, (load (holding tabbedRules) "rules.json").value =
        .error (.unusable ("Rule set rules.json is not valid YAML/JSON: " ++ reason)) := by
  refine ⟨by decide, rfl, Yaml.Fault.malformed.message, ?_⟩
  have hload := load_json (by decide) (read_holding tabbedRules) (by decide)
  rw [if_pos (by decide)] at hload
  exact hload

end RuleSet

end PatternLint
