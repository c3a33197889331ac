import PatternLint.Command
import PatternLint.Proofs.Report.Verdict
import PatternLint.Proofs.RuleSet.Isolation
import PatternLint.Proofs.RuleSet.Loading

/-!
# The exit code of a lint run

A lint run either is refused, before anything is printed or written, or computes a result and delivers one
report of it.  The result does not depend on the format or on where the report goes (`Produces`), so the
exit code does not either, and it agrees with what every report tells.
-/

namespace PatternLint.Command

open PatternLint.Layout PatternLint.Report PatternLint.Text

/-! ### Switches of a call -/

/-- Only switches that are offered are ever found. -/
def Offered (offers : List Offer) (found : List (Switch × String)) : Prop :=
  ∀ p ∈ found, p.1 ∈ offers.map (·.switch)

section Switches

variable {offers : List Offer}

theorem offered_nil : Offered offers [] := by
  intro p hp
  cases hp

theorem offered_cons {s : Switch} {value : String} {found : List (Switch × String)}
    (hs : s ∈ offers.map (·.switch)) (hfound : Offered offers found) :
    Offered offers ((s, value) :: found) := by
  intro p hp
  rcases List.mem_cons.mp hp with rfl | hp
  · exact hs
  · exact hfound p hp

theorem longSwitch?_offered {name : String} {s : Switch} (h : longSwitch? offers name = some s) :
    s ∈ offers.map (·.switch) :=
  List.mem_of_find?_eq_some h

theorem shortSwitch?_offered {name : String} {s : Switch} (h : shortSwitch? offers name = some s) :
    s ∈ offers.map (·.switch) :=
  List.mem_of_find?_eq_some h

theorem readLong_offered {s : Switch} {value : Option String} {rest : List String} {read : SwitchRead}
    (hs : s ∈ offers.map (·.switch)) (h : readLong s value rest = .ok read) :
    Offered offers read.found := by
  unfold readLong at h
  split at h
  all_goals cases h
  all_goals exact offered_cons hs offered_nil

theorem readShort_offered {letters : List Char} : ∀ {rest : List String} {read : SwitchRead},
    readShort offers rest letters = .ok read → Offered offers read.found := by
  induction letters with
  | nil =>
    intro rest read h
    cases h
    exact offered_nil
  | cons c more ih =>
    intro rest read h
    rw [readShort] at h
    split at h
    · cases h
    · rename_i s hs
      have hoffered := shortSwitch?_offered hs
      split at h
      · obtain ⟨inner, hinner, h⟩ := bind_eq_ok h
        cases h
        exact offered_cons hoffered (ih hinner)
      · cases h
      · cases h
        exact offered_cons hoffered offered_nil
      · cases h
        exact offered_cons hoffered offered_nil

theorem readSwitch_offered {word : String} {rest : List String} {read : SwitchRead}
    (h : readSwitch offers word rest = .ok read) : Offered offers read.found := by
  unfold readSwitch at h
  dsimp only at h
  split at h
  · rename_i s hs
    exact readLong_offered (longSwitch?_offered hs) h
  · split at h
    · cases h
    · exact readShort_offered h
    · cases h
      exact offered_nil

theorem offered_foldl_addSwitch : ∀ {found : List (Switch × String)} {g : Given},
    Offered offers found → Offered offers g.switches →
    Offered offers (found.foldl (fun g (s, v) => g.addSwitch s v) g).switches
  | [], g, _, hg => hg
  | (s, v) :: found, g, hfound, hg => by
    have hrest : Offered offers found := fun p hp => hfound p (List.mem_cons_of_mem _ hp)
    rw [List.foldl_cons]
    refine offered_foldl_addSwitch hrest ?_
    exact offered_cons (hfound (s, v) List.mem_cons_self) hg

end Switches

theorem readWords_offered {l : Level} {words : List String} {fuel : Nat} {g g' : Given}
    (hg : Offered l.offers g.switches) (h : readWords l fuel g words = .ok g') :
    Offered l.offers g'.switches := by
  induction fuel generalizing g words with
  | zero =>
    cases h
    exact hg
  | succ fuel ih =>
    cases words with
    | nil =>
      cases h
      exact hg
    | cons word rest =>
      rw [readWords] at h
      split_ifs at h
      · cases h
        exact hg
      · obtain ⟨read, hread, h⟩ := bind_eq_ok h
        exact ih (offered_foldl_addSwitch (readSwitch_offered hread) hg) h
      · cases h
        exact hg
      · have hsame : Offered l.offers (g.addOperand word).switches := hg
        exact ih hsame h

theorem ofWords_offered {l : Level} {words : List String} {g : Given}
    (h : Given.ofWords l words = .ok g) : Offered l.offers g.switches := by
  obtain ⟨g', hread, h⟩ := bind_eq_ok h
  cases h
  intro p hp
  exact readWords_offered offered_nil hread p (List.mem_reverse.mp hp)

/-- A lint call that does not ask for help asks for something to be done. -/
theorem answeredFirst?_lint {words : List String} {g : Given}
    (h : Given.ofWords (.command .lint) words = .ok g) (hhelp : Switch.help ∉ g.switches.map (·.1)) :
    answeredFirst? (.command .lint) g = none := by
  have hversion : Switch.version ∉ (Level.command .lint).offers.map (·.switch) := by decide
  refine List.findSome?_eq_none_iff.mpr fun p hp => ?_
  obtain ⟨s, value⟩ := p
  have hs : s ≠ .help := fun heq => hhelp (List.mem_map.mpr ⟨(s, value), hp, heq⟩)
  have hs' : s ≠ .version := fun heq => hversion (heq ▸ ofWords_offered h (s, value) hp)
  dsimp only
  split
  · exact absurd rfl hs
  · exact absurd rfl hs'
  · rfl

/-- A lint call is put into settings for a lint run. -/
theorem ofGiven_lint {v : Volume} {env : List (String × String)} {g : Given} {task : Task}
    (h : Task.ofGiven v env .lint g = .ok task) : ∃ s, task = .lint s := by
  obtain ⟨-, -, h⟩ := bind_eq_ok h
  cases hoperands : g.operands with
  | nil =>
    rw [hoperands] at h
    cases h
  | cons path paths =>
    rw [hoperands] at h
    obtain ⟨rules, -, h⟩ := bind_eq_ok h
    cases h
    exact ⟨_, rfl⟩

/-! ### Delivering a report -/

theorem write_of_ne {v : Volume} {p : Path} {place : List String} (hplace : v.resolve true p = .ok place)
    (h : v.entry? place ≠ some .directory) (content : List UInt8) :
    v.write p content = .ok (v.put place (.file content)) := by
  unfold Volume.write
  rw [hplace]
  dsimp only [bind, Except.bind]
  split
  · exact absurd ‹_› h
  · rfl

/-- Whether a file can be written does not depend on what is written. -/
theorem write_ok_congr {v v' : Volume} {p : Path} {content : List UInt8}
    (h : v.write p content = .ok v') (other : List UInt8) : ∃ v'', v.write p other = .ok v'' := by
  obtain ⟨place, hplace, h⟩ := bind_eq_ok h
  refine ⟨_, write_of_ne hplace (fun hentry => ?_) other⟩
  rw [hentry] at h
  cases h

/-- Where the text of a report is: on the console, or in the output file, the only one that is
written. -/
def Shown (v : Volume) (output : Option String) (text : String) (o : Outcome) : Prop :=
  match output with
  | none => o.out = text ∧ o.volume = v
  | some file => v.write (Path.ofString file) (encode text) = .ok o.volume

/-- A report of the result was delivered, and the exit code is that of its verdict.  Whoever reads the report finds
the verdict in it, if it is in a file or the console has room for it. -/
structure Delivered [Console] (v : Volume) (output : Option String) (reporter : Reporter) (r : LintResult)
    (o : Outcome) : Prop where
  ends : o.crash = none
  code : o.code = r.exitCode
  shown : ∃ text, Shown v output text o ∧
    ((output = none → room reporter ≤ Console.width) → Tells r o.code text reporter)

@[simp] theorem code_verdict (r : LintResult) (v : Volume) (out : String) :
    (Outcome.verdict r.passed v out).code = r.exitCode := by
  unfold LintResult.exitCode
  cases r.passed <;> rfl

@[simp] theorem out_verdict (passed : Bool) (v : Volume) (out : String) :
    (Outcome.verdict passed v out).out = out := by
  cases passed <;> rfl

@[simp] theorem volume_verdict (passed : Bool) (v : Volume) (out : String) :
    (Outcome.verdict passed v out).volume = v := by
  cases passed <;> rfl

section Console

variable [Console]

theorem writeOut_of_ok {v v' : Volume} {what file text : String} {s : List Char}
    (hwrite : v.write (Path.ofString file) (encode text) = .ok v')
    (hplain : plain ("[green]" ++ what ++ " written to[/green] " ++ file).toList = .ok s)
    (passed : Bool) :
    writeOut v what file text passed = .verdict passed v' (printedMessage s) := by
  unfold writeOut
  simp only [hwrite, hplain]

theorem writeOut_cases (v : Volume) (what file text : String) (passed : Bool) :
    (writeOut v what file text passed).crash ≠ none ∨
      (∃ v', v.write (Path.ofString file) (encode text) = .ok v') ∧
        ∃ s, plain ("[green]" ++ what ++ " written to[/green] " ++ file).toList = .ok s := by
  unfold writeOut
  dsimp only
  split
  · exact Or.inl (by simp [Outcome.crashed])
  · rename_i v' hwrite
    split
    · exact Or.inl (by simp [Outcome.crashed])
    · rename_i s hplain
      exact Or.inr ⟨⟨v', hwrite⟩, s, hplain⟩

/-- If one report reaches its reader, so does any other report on any result in its place. -/
theorem delivered_of_ends {v : Volume} {s s' : LintSettings} {reporter : Reporter} {r : LintResult}
    (hends : (deliver v s reporter r).crash = none) (houtput : s'.output = s.output)
    (reporter' : Reporter) (r' : LintResult) :
    Delivered v s.output reporter' r' (deliver v s' reporter' r') := by
  unfold deliver at hends ⊢
  rw [houtput]
  cases hout : s.output with
  | none =>
    refine ⟨verdict_crash _ _ _, code_verdict _ _ _, reporter'.print Console.width r', ?_, fun hroom => ?_⟩
    · exact ⟨out_verdict _ _ _, volume_verdict _ _ _⟩
    · rw [code_verdict]
      exact tells_print reporter' (hroom rfl) r'
  | some file =>
    rw [hout] at hends
    rcases writeOut_cases v "Report" file (reporter.render r) r.passed with hcrash | ⟨⟨v', hwrite⟩, t, hplain⟩
    · exact absurd hends hcrash
    · obtain ⟨w, hw⟩ := write_ok_congr hwrite (encode (reporter'.render r'))
      have hdone := writeOut_of_ok hw hplain r'.passed
      dsimp only
      rw [hdone]
      refine ⟨verdict_crash _ _ _, code_verdict _ _ _, reporter'.render r', ?_, fun _ => ?_⟩
      · rw [Shown, volume_verdict]
        exact hw
      · rw [code_verdict]
        exact tells_render reporter' r'

end Console

/-! ### Lint runs -/

/-- The root of the tree that is linted. -/
def LintSettings.rootPath (v : Volume) (s : LintSettings) : Path :=
  match s.root with
  | some r => Path.ofString r
  | none => v.cwdPath

/-- The result that a lint run computes: the findings and issues of all files under the rules, with the
dropped rules in front.  Neither the format nor the output file plays a part. -/
def Produces (v : Volume) (s : LintSettings) (r : LintResult) : Prop :=
  ∃ parsed files found,
    (RuleSet.load v s.rules).value = .ok parsed ∧
    collect v (s.rootPath v) s.paths = .ok files ∧
    Engine.runPaths ⟨parsed.ruleSet, s.strict, s.failOnUnreadable⟩ v files (some (s.rootPath v)) =
      .ok found ∧
    r = found.withLeadingIssues (parsed.dropped.map Issue.ofDropped)

section Run

variable [Console] [Host]

/-- What a lint run does once the reporter and the rules are there. -/
theorem lint_eq {v : Volume} {s : LintSettings} {reporter : Reporter} {parsed : Parsed}
    (hformat : Reporter.named s.format = .ok reporter)
    (hload : (RuleSet.load v s.rules).value = .ok parsed) :
    lint v s =
      match collect v (s.rootPath v) s.paths with
      | .error (f, p) => .crashed v "" (.access f p)
      | .ok files =>
        match Engine.runPaths ⟨parsed.ruleSet, s.strict, s.failOnUnreadable⟩ v files
            (some (s.rootPath v)) with
        | .error (.unreadable errors) => .refused v (errorText (FileAccessError.groupMessage errors))
        | .error .nullInPath => .crashed v "" .nullInPath
        | .error (.outside e) => .crashed v "" (.outside e)
        | .ok r => deliver v s reporter (r.withLeadingIssues (parsed.dropped.map Issue.ofDropped)) := by
  unfold lint withRules
  rw [hformat]
  dsimp only
  rw [hload]
  rfl

theorem lint_of_produces {v : Volume} {s : LintSettings} {reporter : Reporter} {r : LintResult}
    (hformat : Reporter.named s.format = .ok reporter) (hr : Produces v s r) :
    lint v s = deliver v s reporter r := by
  obtain ⟨parsed, files, found, hload, hfiles, hrun, rfl⟩ := hr
  rw [lint_eq hformat hload]
  simp only [hfiles, hrun]

/-- A lint run is refused, breaks off, or delivers a report of the result that it produces. -/
theorem lint_cases (v : Volume) (s : LintSettings) :
    (∃ err, lint v s = .refused v err) ∨ (lint v s).crash ≠ none ∨
      ∃ reporter r, Reporter.named s.format = .ok reporter ∧ Produces v s r := by
  cases hformat : Reporter.named s.format with
  | error e =>
    left
    unfold lint
    rw [hformat]
    exact ⟨_, rfl⟩
  | ok reporter =>
    cases hload : (RuleSet.load v s.rules).value with
    | error e =>
      have hlint : ∃ go, lint v s = withRules v s.rules go := by
        unfold lint
        rw [hformat]
        exact ⟨_, rfl⟩
      obtain ⟨go, hgo⟩ := hlint
      rw [hgo]
      by_cases hc : ∃ c, e = .document (.unusable c)
      · obtain ⟨c, rfl⟩ := hc
        exact Or.inl ⟨_, withRules_unusable go hload⟩
      · right; left
        rw [withRules_other go hload fun c he => hc ⟨c, he⟩]
        simp [Outcome.crashed]
    | ok parsed =>
      rw [lint_eq hformat hload]
      cases hfiles : collect v (s.rootPath v) s.paths with
      | error fault => exact Or.inr (Or.inl (by simp [Outcome.crashed]))
      | ok files =>
        dsimp only
        cases hrun : Engine.runPaths ⟨parsed.ruleSet, s.strict, s.failOnUnreadable⟩ v files
            (some (s.rootPath v)) with
        | ok found =>
          exact Or.inr (Or.inr ⟨reporter, _, rfl, parsed, files, found, hload, hfiles, hrun, rfl⟩)
        | error failure =>
          cases failure with
          | unreadable errors => exact Or.inl ⟨_, rfl⟩
          | nullInPath => exact Or.inr (Or.inl (by simp [Outcome.crashed]))
          | outside e => exact Or.inr (Or.inl (by simp [Outcome.crashed]))

end Run

theorem Produces.withFormat {v : Volume} {s : LintSettings} {r : LintResult} (h : Produces v s r)
    (format : String) : Produces v { s with format := format } r := h

/-- A call of the lint command that does not ask for help is refused, or performs a lint run. -/
theorem runCommand_lint [Console] [Host] {v : Volume} {env : List (String × String)} {words : List String}
    (hhelp : ∀ g, Given.ofWords (.command .lint) words = .ok g → Switch.help ∉ g.switches.map (·.1)) :
    (∃ err, runCommand v env .lint words = .refused v err) ∨
      ∃ g s, Given.ofWords (.command .lint) words = .ok g ∧
        Task.ofGiven v env .lint g = .ok (.lint s) ∧ runCommand v env .lint words = lint v s := by
  unfold runCommand
  dsimp only
  cases hwords : Given.ofWords (.command .lint) words with
  | error e => exact Or.inl ⟨_, rfl⟩
  | ok g =>
    dsimp only
    rw [answeredFirst?_lint hwords (hhelp g hwords)]
    dsimp only
    cases htask : Task.ofGiven v env .lint g with
    | error e => exact Or.inl ⟨_, rfl⟩
    | ok task =>
      obtain ⟨s, rfl⟩ := ofGiven_lint htask
      exact Or.inr ⟨g, s, rfl, htask, rfl⟩

/-- **The exit code of a lint run.**  A call of the lint command that does not ask for help and does not
break off either is refused with the code 2, and then prints nothing and leaves every file as it was; or
it produces a result, and the code is 1 if one of its annotations is an error and else 0.  The same result
and the same code come with every format, on every console, and every report tells them. -/
theorem lint_exit_code [Console] [Host] (v : Volume) (env : List (String × String)) (words : List String)
    (hhelp : ∀ g, Given.ofWords (.command .lint) words = .ok g → Switch.help ∉ g.switches.map (·.1))
    (hends : (runCommand v env .lint words).crash = none) :
    ((runCommand v env .lint words).code = 2 ∧ (runCommand v env .lint words).out = "" ∧
        (runCommand v env .lint words).volume = v) ∨
      ∃ g s r, Given.ofWords (.command .lint) words = .ok g ∧
        Task.ofGiven v env .lint g = .ok (.lint s) ∧ Produces v s r ∧
        ((runCommand v env .lint words).code = 1 ↔ ∃ a ∈ r.annotations, a.severity = .error) ∧
        ((runCommand v env .lint words).code = 0 ↔ ∀ a ∈ r.annotations, a.severity ≠ .error) ∧
        (∃ reporter, Reporter.named s.format = .ok reporter ∧
          Delivered v s.output reporter r (runCommand v env .lint words)) ∧
        ∀ format reporter, Reporter.named format = .ok reporter →
          (lint v { s with format := format }).code = (runCommand v env .lint words).code ∧
          Delivered v s.output reporter r (lint v { s with format := format }) := by
  rcases runCommand_lint hhelp with ⟨err, hrefused⟩ | ⟨g, s, hwords, htask, hrun⟩
  · left
    rw [hrefused]
    exact ⟨rfl, rfl, rfl⟩
  rw [hrun] at hends ⊢
  rcases lint_cases v s with ⟨err, hrefused⟩ | hcrash | ⟨reporter, r, hformat, hr⟩
  · left
    rw [hrefused]
    exact ⟨rfl, rfl, rfl⟩
  · exact absurd hends hcrash
  right
  have hlint := lint_of_produces hformat hr
  have hother : ∀ format reporter', Reporter.named format = .ok reporter' →
      Delivered v s.output reporter' r (lint v { s with format := format }) := by
    intro format reporter' hformat'
    rw [lint_of_produces hformat' (hr.withFormat format)]
    rw [hlint] at hends
    exact delivered_of_ends hends rfl reporter' r
  have hdelivered : Delivered v s.output reporter r (lint v s) := hother s.format reporter hformat
  refine ⟨g, s, r, hwords, htask, hr, ?_, ?_, ⟨reporter, hformat, hdelivered⟩, ?_⟩
  · rw [hdelivered.code, r.exitCode_eq_one_iff, ← Bool.not_eq_true, r.passed_iff]
    push Not
    rfl
  · rw [hdelivered.code, r.exitCode_eq_zero_iff, r.passed_iff]
  · intro format reporter' hformat'
    have hd := hother format reporter' hformat'
    exact ⟨hd.code.trans hdelivered.code.symm, hd⟩

/-- A volume with a rule file and a text that its only rule matches. -/
def oneMatch : Volume :=
  ⟨["w"], [([], .directory), (["w"], .directory), (["w", "a.txt"], .file (encode "a")),
    (["w", "rules.json"], .file (encode "\x7b\"rules\": [\x7b\"name\": \"r\", \"pattern\": \"a\"\x7d]\x7d"))]⟩

theorem oneMatch_fails :
    (runCommand oneMatch [] .lint ["a.txt", "-r", "rules.json"]).crash = none ∧
      (runCommand oneMatch [] .lint ["a.txt", "-r", "rules.json"]).code = 1 ∧
      ∃ s r, Produces oneMatch s r ∧ (∃ a ∈ r.annotations, a.severity = .error) ∧
        ∀ format reporter, Reporter.named format = .ok reporter →
          (lint oneMatch { s with format := format }).code = 1 ∧
            Delivered oneMatch s.output reporter r (lint oneMatch { s with format := format }) := by
  have hends : (runCommand oneMatch [] .lint ["a.txt", "-r", "rules.json"]).crash = none := by
    decide +kernel
  have hcode : (runCommand oneMatch [] .lint ["a.txt", "-r", "rules.json"]).code = 1 := by
    decide +kernel
  have hgiven : Given.ofWords (.command .lint) ["a.txt", "-r", "rules.json"] =
      .ok ⟨[(.rules, "rules.json")], ["a.txt"]⟩ := by
    decide +kernel
  have hhelp : ∀ g, Given.ofWords (.command .lint) ["a.txt", "-r", "rules.json"] = .ok g →
      Switch.help ∉ g.switches.map (·.1) := by
    intro g hg
    obtain rfl := Except.ok.inj (hgiven.symm.trans hg)
    decide
  refine ⟨hends, hcode, ?_⟩
  rcases lint_exit_code oneMatch [] ["a.txt", "-r", "rules.json"] hhelp hends with
    ⟨hrefused, -⟩ | ⟨-, s, r, -, -, hr, herror, -, -, hformats⟩
  · rw [hcode] at hrefused
    omega
  · rw [hcode] at hformats
    exact ⟨s, r, hr, herror.mp hcode, hformats⟩

end PatternLint.Command
