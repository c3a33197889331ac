import PatternLint.Proofs.Lint.Spans
import PatternLint.Proofs.RuleSet.Fields

/-!
# The one line of a finding

An annotation is shown on one line with the first line of its message, and an empty message has none.  The
message starts with the name of the rule and a line feed, so its first line is that of the name
(`head?_splitLines_messageOf`).  The name of a rule that was kept is a text without its outer blanks
(`readEntry_name`); every line break is a blank, so the name does not start with one and its first line is
not empty.
-/

namespace PatternLint

open PatternLint.Text

/-! ### First lines -/

namespace Text

/-- The part of a text in front of its first line break. -/
def firstLine (s : List Char) : List Char := s.takeWhile fun c => !isLineBreak c.toNat

theorem firstLine_of_isLineBreak {c : Char} (h : isLineBreak c.toNat) (rest : List Char) :
    firstLine (c :: rest) = [] := by
  simp [firstLine, h]

theorem firstLine_of_not_isLineBreak {c : Char} (h : isLineBreak c.toNat = false)
    (rest : List Char) : firstLine (c :: rest) = c :: firstLine rest := by
  simp [firstLine, h]

theorem head?_splitLines {s : List Char} (hs : s ≠ []) :
    (splitLines s).head? = some (firstLine s) := by
  fun_induction splitLines s with
  | case1 => exact absurd rfl hs
  | case2 rest ih => exact congrArg some (firstLine_of_isLineBreak (by decide) _).symm
  | case3 c rest _ hbreak ih => exact congrArg some (firstLine_of_isLineBreak hbreak _).symm
  | case4 c rest _ hbreak hnil ih =>
    -- nothing follows the character, else there were another line
    obtain rfl : rest = [] := by
      by_contra hne
      simpa [hnil] using ih hne
    exact congrArg some (firstLine_of_not_isLineBreak (by simpa using hbreak) []).symm
  | case5 c rest _ hbreak line lines hlines ih =>
    have hne : rest ≠ [] := by
      rintro rfl
      simp [splitLines] at hlines
    have hline : line = firstLine rest := by simpa [hlines] using ih hne
    rw [List.head?_cons, hline, firstLine_of_not_isLineBreak (by simpa using hbreak)]

/-- What follows a line feed does not belong to the first line. -/
theorem firstLine_append_newline (s rest : List Char) :
    firstLine (s ++ '\n' :: rest) = firstLine s := by
  induction s with
  | nil => exact firstLine_of_isLineBreak (by decide) rest
  | cons c s ih =>
    by_cases hbreak : isLineBreak c.toNat
    · rw [List.cons_append, firstLine_of_isLineBreak hbreak, firstLine_of_isLineBreak hbreak]
    · have hno : isLineBreak c.toNat = false := by simpa using hbreak
      rw [List.cons_append, firstLine_of_not_isLineBreak hno, firstLine_of_not_isLineBreak hno, ih]

/-- A line break is removed at the ends of a text. -/
theorem blank_of_isLineBreak {c : Char} (h : isLineBreak c.toNat) : Blank c := by
  simp only [isLineBreak, Blank, isBlank, Bool.or_eq_true, Bool.and_eq_true, decide_eq_true_eq,
    beq_iff_eq] at h ⊢
  omega

theorem not_isLineBreak {c : Char} (h : Blank c = false) : isLineBreak c.toNat = false := by
  cases hbreak : isLineBreak c.toNat with
  | false => rfl
  | true => exact absurd (blank_of_isLineBreak hbreak) (by simp [h])

/-- A text that lost its outer blanks starts with a line that is not empty. -/
theorem firstLine_strip_ne_nil {s : List Char} (hs : strip s ≠ []) : firstLine (strip s) ≠ [] := by
  obtain ⟨c, rest, hcons⟩ := List.exists_cons_of_ne_nil hs
  have hblank : Blank c = false := not_blank_of_head?_strip (by rw [hcons]; rfl)
  rw [hcons, firstLine_of_not_isLineBreak (not_isLineBreak hblank)]
  exact List.cons_ne_nil _ _

end Text

/-! ### Names of rules -/

theorem Field.name_eq_ok {e : Field.Entries} {name : String} (h : Field.name e = .ok name) :
    ∃ s, strip s ≠ [] ∧ name.toList = strip s := by
  unfold Field.name at h
  split at h
  · rename_i s _
    dsimp only at h
    split_ifs at h with hempty
    obtain rfl := Except.ok.inj h
    exact ⟨s.toList, by simpa using hempty, String.toList_ofList⟩
  · cases h

theorem buildRule_kept {name pattern : String} {documentation : Option String} {severity : Severity}
    {scope : Scope} {literal ignoreCase : Bool} {r : Rule}
    (h : buildRule name pattern documentation severity scope literal ignoreCase = .kept r) :
    r.name = name := by
  unfold buildRule at h
  split at h
  · rename_i rule hrule
    obtain rfl := EntryOutcome.kept.inj h
    obtain ⟨compiled, -, hbuilt⟩ := bind_eq_ok hrule
    obtain rfl := Except.ok.inj hbuilt
    rfl
  · cases h
  · cases h

/-- The name of a rule that is kept is what is left of a text without its outer blanks. -/
theorem readEntry_name {fallback : Severity} {i : Nat} {entry : Document} {r : Rule}
    (h : readEntry fallback i entry = .kept r) : ∃ s, strip s ≠ [] ∧ r.name.toList = strip s := by
  cases entry with
  | mapping m =>
    unfold readEntry at h
    dsimp only at h
    split at h
    · rename_i hname _ _ _ _ _ _ _
      rw [buildRule_kept h]
      exact Field.name_eq_ok hname
    · cases h
  | _ => cases h

theorem ofDocument_name {d : Document} {parsed : Parsed}
    (h : (RuleSet.ofDocument d).value = .ok parsed) {r : Rule} (hr : r ∈ parsed.ruleSet.rules) :
    ∃ s, strip s ≠ [] ∧ r.name.toList = strip s := by
  obtain ⟨settings, entries, -, hread⟩ := ofDocument_ok h
  obtain ⟨entry, -, i, hkept⟩ := mem_readEntries hread hr
  exact readEntry_name hkept

/-! ### Lines of findings -/

namespace Annotation

theorem head?_splitLines_messageOf (r : Rule) (matched : String) :
    (splitLines (messageOf r matched).toList).head? = some (firstLine r.name.toList) := by
  have hmessage : (messageOf r matched).toList =
      r.name.toList ++ '\n' :: ("Matched: ".toList ++ matched.toList ++ (documented r).toList) := by
    rw [messageOf_eq]
    simp [String.toList_append]
  rw [hmessage, head?_splitLines (by simp), firstLine_append_newline]

/-- The line of a finding ends with the first line of the name of its rule. -/
theorem line?_of_messageOf {a : Annotation} {r : Rule} {matched : String}
    (hmessage : a.message = messageOf r matched) :
    a.line? = some (a.file ++ ":" ++ toString a.startLine ++ ":" ++ toString a.startColumn ++ ": " ++
      a.severity.name ++ ": [" ++ a.rule ++ "] " ++ String.ofList (firstLine r.name.toList)) := by
  rw [line?, firstLine?, hmessage, head?_splitLines_messageOf]
  rfl

end Annotation

/-- A finding says in its message by which rule it was made. -/
theorem Engine.mem_findingsIn {e : Engine} {path text : String} {a : Annotation}
    (h : a ∈ e.findingsIn path text) :
    ∃ r ∈ e.ruleSet.rules, ∃ matched, a.message = Annotation.messageOf r matched ∧ a.rule = r.name := by
  obtain ⟨r, hr, ha⟩ := List.mem_flatMap.mp h
  obtain ⟨m, -, rfl⟩ := List.mem_map.mp ha
  refine ⟨r, (List.mem_filter.mp hr).1, m.text, ?_⟩
  rw [Engine.finding_eq]
  exact ⟨rfl, rfl⟩

/-! ### Linting with a document -/

/-- The first line of the name of a rule; it is not empty. -/
def IsHeadline (r : Rule) (first : List Char) : Prop :=
  (splitLines r.name.toList).head? = some first ∧ first ≠ []

theorem isHeadline_firstLine {r : Rule} {s : List Char} (hs : strip s ≠ [])
    (hname : r.name.toList = strip s) : IsHeadline r (firstLine r.name.toList) := by
  rw [IsHeadline, hname]
  exact ⟨head?_splitLines hs, firstLine_strip_ne_nil hs⟩

/-- **Every finding has its line.**  Linting with a document that was read gives a result, and each finding
in it can be shown on one line, with the first line of the name of its rule at the end.  The name of a rule
that was kept neither starts nor ends with a line break, so this line is not empty, and the first line of
the message is the same whatever the matched text and the documentation are. -/
theorem findings_have_their_line {d : Document} {parsed : Parsed}
    (hread : (RuleSet.ofDocument d).value = .ok parsed) (files : List (String × String))
    (strict : Bool) (workers : Option Int) (hworkers : workers.any (· < 1) = false) :
    (∃ r, lintDocument d files strict workers = .ok r ∧
      ∀ a ∈ r.annotations, ∃ rule ∈ parsed.ruleSet.rules, ∃ first,
        IsHeadline rule first ∧
        a.line? = some (a.file ++ ":" ++ toString a.startLine ++ ":" ++ toString a.startColumn ++
          ": " ++ a.severity.name ++ ": [" ++ rule.name ++ "] " ++ String.ofList first)) ∧
    ∀ rule ∈ parsed.ruleSet.rules,
      (∃ first, IsHeadline rule first ∧ ∀ documentation matched,
        (splitLines <| String.toList <|
          Annotation.messageOf { rule with documentation := documentation } matched).head? = some first) ∧
      ∀ c : Char, isLineBreak c.toNat →
        rule.name.toList.head? ≠ some c ∧ rule.name.toList.getLast? ≠ some c := by
  refine ⟨⟨_, by rw [lintDocument_eq hread, hworkers]; rfl, fun a ha => ?_⟩, fun rule hrule => ?_⟩
  · obtain ⟨f, -, ha⟩ := List.mem_flatMap.mp ha
    obtain ⟨rule, hrule, matched, hmessage, hname⟩ := Engine.mem_findingsIn ha
    obtain ⟨s, hs, hstrip⟩ := ofDocument_name hread hrule
    refine ⟨rule, hrule, _, isHeadline_firstLine hs hstrip, ?_⟩
    have hline := Annotation.line?_of_messageOf hmessage
    rwa [hname] at hline
  · obtain ⟨s, hs, hstrip⟩ := ofDocument_name hread hrule
    refine ⟨⟨_, isHeadline_firstLine hs hstrip, fun documentation matched => ?_⟩, fun c hbreak => ?_⟩
    · exact Annotation.head?_splitLines_messageOf { rule with documentation := documentation } matched
    · have hblank := blank_of_isLineBreak hbreak
      rw [hstrip]
      constructor
      · intro hhead
        simp [not_blank_of_head?_strip hhead] at hblank
      · intro hlast
        simp [not_blank_of_getLast?_strip hlast] at hblank

/-- A document whose only rule has line breaks around its name and one inside. -/
def brokenName : Document :=
  .mapping [("rules", .list [.mapping [("name", .text "\u2028\x0b no\ntabs \x1c\r"),
    ("pattern", .text "\t")]])]

theorem brokenName_line :
    (RuleSet.ofDocument brokenName).value.isOk ∧
      ∃ r, lintDocument brokenName [("./a.txt", "\n\t")] true none = .ok r ∧ r.annotations.length = 1 ∧
        ∀ a ∈ r.annotations, a.line? = some (a.file ++ ":" ++ toString a.startLine ++ ":" ++
          toString a.startColumn ++ ": " ++ a.severity.name ++ ": [no\ntabs] no") := by
  have hok : (RuleSet.ofDocument brokenName).value.isOk := by decide +kernel
  have hnames : ((RuleSet.ofDocument brokenName).value.map fun p => p.ruleSet.ruleNames) =
      .ok ["no\ntabs"] := by
    decide +kernel
  have hcount : ((lintDocument brokenName [("./a.txt", "\n\t")] true none).map
      fun r => r.annotations.length) = .ok 1 := by
    decide +kernel
  obtain ⟨parsed, hread, hparsed⟩ := map_eq_ok.mp hnames
  obtain ⟨⟨r, hr, hlines⟩, -⟩ :=
    findings_have_their_line hread [("./a.txt", "\n\t")] true none rfl
  refine ⟨hok, r, hr, ?_, fun a ha => ?_⟩
  · rw [hr] at hcount
    exact Except.ok.inj hcount
  · obtain ⟨rule, hrule, first, ⟨hfirst, -⟩, hline⟩ := hlines a ha
    have hname : rule.name = "no\ntabs" := by
      have hmem : rule.name ∈ parsed.ruleSet.ruleNames := List.mem_map_of_mem hrule
      simpa [hparsed] using hmem
    have hno : (splitLines "no\ntabs".toList).head? = some "no".toList := by decide +kernel
    rw [hname] at hfirst hline
    obtain rfl := Option.some.inj (hno.symm.trans hfirst)
    rw [hline]
    simp [String.append_assoc]

end PatternLint
