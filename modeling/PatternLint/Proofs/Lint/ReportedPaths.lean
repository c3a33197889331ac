import PatternLint.Proofs.Lint.Files
import PatternLint.Proofs.Path

/-!
# How files are reported

A file is reported by its absolute path, or by the names behind those of the root of the tree if it lies in
it.  Both are texts of proper paths, which the normal form of reported paths leaves alone where there is no
backslash (`normalize_text`).  So what is reported can be read back: joined to the root it is the absolute
path again (`ofString_displayed`), and two files are reported alike exactly if their absolute paths are the
same (`displayed_inj`).  In a run a path may then be replaced by another spelling (`runPaths_replace`).
-/

namespace PatternLint

open PatternLint.Text

namespace Path

/-! ### Normal texts -/

/-- No name holds a backslash, which a reported path would turn into a slash. -/
def NoBackslash (p : Path) : Prop := ∀ n ∈ p.names, '\\' ∉ n.toList

theorem noBackslash_ofString {s : String} (h : '\\' ∉ s.toList) : (ofString s).NoBackslash := by
  intro n hn
  obtain ⟨hmem, -⟩ := List.mem_filter.mp hn
  obtain ⟨piece, hpiece, rfl⟩ := List.mem_map.mp hmem
  rw [String.toList_ofList]
  exact fun hc => h (mem_of_mem_splitOn hpiece hc)

theorem backslash_notMem_text {p : Path} (h : p.NoBackslash) : '\\' ∉ p.text.toList := by
  unfold text
  split_ifs
  · decide
  · rw [String.toList_append, List.mem_append, mem_joinWith (by decide), not_or]
    refine ⟨?_, fun ⟨n, hn, hc⟩ => h n hn hc⟩
    cases p.anchor <;> decide

theorem text_relative {names : List String} (h : names ≠ []) :
    (⟨.relative, names⟩ : Path).text = joinWith "/" names := by
  unfold text
  rw [if_neg fun hhere => h (congrArg Path.names hhere)]
  rfl

/-- No text of a proper path starts with `./`. -/
theorem dot_not_prefix_text {p : Path} (h : p.Proper) : ¬ ['.', '/'] <+: p.text.toList := by
  rintro ⟨rest, hrest⟩
  obtain ⟨anchor, names⟩ := p
  unfold text at hrest
  split_ifs at hrest with hhere
  · exact absurd hrest (by simp)
  · rw [String.toList_append] at hrest
    have hhead := congrArg List.head? hrest
    cases anchor with
    | root => simp [anchorText] at hhead
    | doubleRoot => simp [anchorText] at hhead
    | relative =>
      have hne : names ≠ [] := by
        rintro rfl
        exact hhere rfl
      have hpieces := pieces_joinWith hne fun n hn => (h n hn).2
      have htext : (joinWith "/" names).toList = ['.'] ++ '/' :: rest := hrest.symm
      unfold pieces at hpieces
      rw [htext, splitOn_append (by decide), List.map_cons] at hpieces
      -- the first piece of the text is a single dot, which is no name
      have hdot : "." ∈ names := hpieces ▸ List.mem_cons_self
      exact absurd (h "." hdot).1 (by decide)

theorem normalize_text {p : Path} (hp : p.Proper) (hback : p.NoBackslash) :
    normalize p.text = p.text := by
  unfold normalize normalizeChars
  rw [map_slashed (backslash_notMem_text hback), dropDots_eq_self (dot_not_prefix_text hp),
    String.ofList_toList]

/-! ### Inside and outside of a tree -/

/-- `p` is the base or lies below it, by the names alone. -/
def Contains (base p : Path) : Prop := ∃ names, p = ⟨base.anchor, base.names ++ names⟩

theorem relativeTo?_of_contains (base : Path) (names : List String) :
    relativeTo? ⟨base.anchor, base.names ++ names⟩ base = some ⟨.relative, names⟩ := by
  unfold relativeTo?
  simp

theorem relativeTo?_of_not_contains {p base : Path} (h : ¬ base.Contains p) :
    p.relativeTo? base = none := by
  unfold relativeTo?
  rw [if_neg]
  intro hinside
  obtain ⟨hanchor, hprefix⟩ := Bool.and_eq_true_iff.mp hinside
  obtain ⟨names, hnames⟩ := List.isPrefixOf_iff_prefix.mp hprefix
  obtain ⟨anchor, all⟩ := p
  obtain rfl : anchor = base.anchor := of_decide_eq_true hanchor
  exact h ⟨names, congrArg (Path.mk base.anchor) hnames.symm⟩

section Displayed

variable {p q cwd : Path} (root : Path)

/-- A path that can be reported as it is. -/
def Reportable (p : Path) : Prop := p.Proper ∧ p.NoBackslash

theorem reportable_ofString {s : String} (h : '\\' ∉ s.toList) : (ofString s).Reportable :=
  ⟨proper_ofString s, noBackslash_ofString h⟩

theorem Reportable.absolute (hp : p.Reportable) (hcwd : cwd.Reportable) :
    (p.absolute cwd).Reportable :=
  ⟨forall_names_absolute hp.1 hcwd.1, forall_names_absolute hp.2 hcwd.2⟩

/-- The names behind those of the root, or the absolute path. -/
theorem displayed_cases (hp : p.Reportable) (hcwd : cwd.Reportable) :
    (∃ names, p.absolute cwd = ⟨(root.absolute cwd).anchor, (root.absolute cwd).names ++ names⟩ ∧
      Reportable ⟨.relative, names⟩ ∧ p.displayed cwd root = (⟨.relative, names⟩ : Path).text) ∨
    (¬ (root.absolute cwd).Contains (p.absolute cwd) ∧
      p.displayed cwd root = (p.absolute cwd).text) := by
  have hfull := hp.absolute hcwd
  unfold displayed
  dsimp only
  by_cases hin : (root.absolute cwd).Contains (p.absolute cwd)
  · obtain ⟨names, hnames⟩ := hin
    have hinside : Reportable ⟨.relative, names⟩ := by
      rw [hnames] at hfull
      exact ⟨fun n hn => hfull.1 n (List.mem_append_right _ hn),
        fun n hn => hfull.2 n (List.mem_append_right _ hn)⟩
    refine Or.inl ⟨names, hnames, hinside, ?_⟩
    rw [hnames, relativeTo?_of_contains]
    exact normalize_text hinside.1 hinside.2
  · refine Or.inr ⟨hin, ?_⟩
    rw [relativeTo?_of_not_contains hin]
    exact normalize_text hfull.1 hfull.2

/-- Joined to the root, what is reported is the absolute path again. -/
theorem ofString_displayed (hp : p.Reportable) (hcwd : cwd.Reportable)
    (habs : cwd.isAbsolute = true) :
    (ofString (p.displayed cwd root)).under (root.absolute cwd) = p.absolute cwd := by
  rcases displayed_cases root hp hcwd with ⟨names, hnames, hinside, htext⟩ | ⟨-, htext⟩
  · rw [htext, ofString_text hinside.1, hnames]
    rfl
  · rw [htext, ofString_text (hp.absolute hcwd).1]
    exact if_pos (isAbsolute_absolute habs)

/-- Two files are reported alike exactly if their absolute paths are the same. -/
theorem displayed_inj (hp : p.Reportable) (hq : q.Reportable) (hcwd : cwd.Reportable)
    (habs : cwd.isAbsolute = true) :
    p.displayed cwd root = q.displayed cwd root ↔ p.absolute cwd = q.absolute cwd := by
  constructor
  · intro h
    rw [← ofString_displayed root hp hcwd habs, h, ofString_displayed root hq hcwd habs]
  · intro h
    unfold displayed
    rw [h]

/-- How a file is reported whose absolute path is `full`, in a tree with the root `top`. -/
structure ReportedAs (top full : Path) (shown : String) : Prop where
  outside : ¬ top.Contains full → shown = full.text
  inside : top.Contains full → (ofString shown).isAbsolute = false ∧ ".." ∉ pieces '/' shown
  noDot : ¬ ['.', '/'] <+: shown.toList
  joined : (ofString shown).under top = full
  root : shown = "." ↔ full = top

theorem reportedAs_displayed (hp : p.Reportable) (hcwd : cwd.Reportable)
    (habs : cwd.isAbsolute = true) :
    ReportedAs (root.absolute cwd) (p.absolute cwd) (p.displayed cwd root) := by
  have hjoined := ofString_displayed root hp hcwd habs
  rcases displayed_cases root hp hcwd with ⟨names, hnames, hinside, htext⟩ | ⟨hout, htext⟩
  · have hin : (root.absolute cwd).Contains (p.absolute cwd) := ⟨names, hnames⟩
    refine ⟨fun hout => absurd hin hout, fun _ => ⟨?_, ?_⟩, ?_, hjoined, ?_⟩
    · rw [htext, ofString_text hinside.1]
      rfl
    · have hdots : ".." ∉ names := by
        intro hmem
        refine dots_notMem_resolveDots (p.under cwd).names ?_
        change ".." ∈ (p.absolute cwd).names
        rw [hnames]
        exact List.mem_append_right _ hmem
      rw [htext]
      by_cases hne : names = []
      · subst hne
        decide
      · rw [text_relative hne, pieces_joinWith hne fun n hn => (hinside.1 n hn).2]
        exact hdots
    · rw [htext]
      exact dot_not_prefix_text hinside.1
    · rw [htext, hnames, show "." = here.text from rfl, text_inj hinside.1 (by simp [Proper, here])]
      refine ⟨fun h => ?_, fun h => ?_⟩
      · obtain rfl : names = [] := congrArg Path.names h
        rw [List.append_nil]
      · obtain rfl : names = [] := List.append_right_eq_self.mp (congrArg Path.names h)
        rfl
  · have hfull := (hp.absolute hcwd).1
    refine ⟨fun _ => htext, fun hin => absurd hin hout, ?_, hjoined, ?_⟩
    · rw [htext]
      exact dot_not_prefix_text hfull
    · rw [htext, show "." = here.text from rfl, text_inj hfull (by simp [Proper, here])]
      refine ⟨fun h => ?_, fun h => ?_⟩
      · have hfar := isAbsolute_absolute (p := p) habs
        rw [h] at hfar
        exact absurd hfar (by decide)
      · exact absurd ⟨[], by rw [h, List.append_nil]⟩ hout

end Displayed

end Path

/-! ### Spellings of one path in a run -/

namespace Engine

section Spelling

variable {v : Volume} {base p q : Path}

theorem reportedPath_congr (h : (p.under base).absolute v.cwdPath = (q.under base).absolute v.cwdPath) :
    reportedPath v base p = reportedPath v base q := by
  unfold reportedPath Path.displayed
  rw [h]

/-- One path of a run stands for another that is reported as it and holds the same text. -/
theorem runPaths_replace (e : Engine) (v : Volume) {root : Option Path} (front back : List Path)
    (hreported : reportedPath v (root.getD v.cwdPath) p = reportedPath v (root.getD v.cwdPath) q)
    (htext : v.readText (p.under (root.getD v.cwdPath)) = v.readText (q.under (root.getD v.cwdPath)))
    (hnull : hasNull (p.under (root.getD v.cwdPath)) = hasNull (q.under (root.getD v.cwdPath))) :
    e.runPaths v (front ++ p :: back) root = e.runPaths v (front ++ q :: back) root := by
  have hjob : jobOf v (root.getD v.cwdPath) p = jobOf v (root.getD v.cwdPath) q := by
    unfold jobOf
    exact congrArg₂ Job.mk hreported htext
  unfold runPaths
  simp only [List.any_append, List.any_cons, List.map_append, List.map_cons, hjob, hnull]

end Spelling

/-- **A reported path names one file.**  The absolute path is what is left when double dots are resolved
by the names, in any order.  Without backslashes, a file outside of the root is reported by its absolute
path, one inside by the names that lead to it from the root, and two files alike exactly if their absolute
paths are the same.  So a run reports a path like its absolute path, and like any other absolute spelling of
it; if the same is read from both, it is the same run. -/
theorem displayed_names_one_file (cwd root : String) (habs : (Path.ofString cwd).isAbsolute = true)
    (hcwd : '\\' ∉ cwd.toList) :
    (∀ path : String, '\\' ∉ path.toList →
      let given := (Path.ofString path).under (Path.ofString cwd)
      let full := (Path.ofString path).absolute (Path.ofString cwd)
      (full.anchor = given.anchor ∧ ∀ names, Path.Collapses given.names names ↔ names = full.names) ∧
      Path.ReportedAs ((Path.ofString root).absolute (Path.ofString cwd)) full
        ((Path.ofString path).displayed (Path.ofString cwd) (Path.ofString root))) ∧
    (∀ path path' : String, '\\' ∉ path.toList → '\\' ∉ path'.toList →
      ((Path.ofString path).displayed (Path.ofString cwd) (Path.ofString root) =
          (Path.ofString path').displayed (Path.ofString cwd) (Path.ofString root) ↔
        (Path.ofString path).absolute (Path.ofString cwd) =
          (Path.ofString path').absolute (Path.ofString cwd))) ∧
    ∀ (e : Engine) (v : Volume) (top : Option Path) (item : Path) (front back : List Path),
      let base := top.getD v.cwdPath
      reportedPath v base ((item.under base).absolute v.cwdPath) = reportedPath v base item ∧
      (∀ spelling : Path, spelling.isAbsolute = true →
        spelling.absolute v.cwdPath = (item.under base).absolute v.cwdPath →
        reportedPath v base spelling = reportedPath v base item ∧
        (v.readText spelling = v.readText (item.under base) →
          hasNull spelling = hasNull (item.under base) →
          e.runPaths v (front ++ spelling :: back) top = e.runPaths v (front ++ item :: back) top)) ∧
      (base.isAbsolute = true →
        e.runPaths v (front ++ item.under base :: back) top =
          e.runPaths v (front ++ item :: back) top) := by
  have hbase := Path.reportable_ofString hcwd
  refine ⟨fun path hpath => ⟨⟨rfl, fun names => Path.collapses_iff⟩, ?_⟩,
    fun path path' hpath hpath' => ?_, fun e v top item front back => ⟨?_, ?_, fun hroot => ?_⟩⟩
  · exact Path.reportedAs_displayed _ (Path.reportable_ofString hpath) hbase habs
  · exact Path.displayed_inj _ (Path.reportable_ofString hpath) (Path.reportable_ofString hpath')
      hbase habs
  · refine reportedPath_congr ?_
    rw [Path.under_of_isAbsolute (Path.isAbsolute_absolute rfl), Path.absolute_absolute rfl]
  · intro spelling hspelling hsame
    have hunder : spelling.under (top.getD v.cwdPath) = spelling := Path.under_of_isAbsolute hspelling
    have hreported : reportedPath v (top.getD v.cwdPath) spelling =
        reportedPath v (top.getD v.cwdPath) item :=
      reportedPath_congr (by rw [hunder, hsame])
    refine ⟨hreported, fun htext hnull => ?_⟩
    exact e.runPaths_replace v front back hreported (by rw [hunder, htext]) (by rw [hunder, hnull])
  · have hself : (item.under (top.getD v.cwdPath)).under (top.getD v.cwdPath) =
        item.under (top.getD v.cwdPath) := Path.under_of_isAbsolute (Path.isAbsolute_under hroot)
    exact e.runPaths_replace v front back (reportedPath_congr (by rw [hself])) (by rw [hself])
      (by rw [hself])

/-- Seen from the tree `/w/t`: a file in it, a sibling whose name only starts like it, and a run in which
one file is spelled in two ways. -/
theorem sibling_reported_apart :
    (Path.ofString "/w/x").isAbsolute = true ∧ '\\' ∉ "/w/x".toList ∧
      Path.ReportedAs ⟨.root, ["w", "t"]⟩ ⟨.root, ["w", "t", "a", "b"]⟩ "a/b" ∧
      Path.ReportedAs ⟨.root, ["w", "t"]⟩ ⟨.root, ["w", "tt"]⟩ "/w/tt" ∧
      Engine.runPaths ⟨⟨[], .everywhere⟩, false, false⟩ mixedVolume
          [⟨.root, ["w", "..", "w", "a.txt"]⟩] none =
        Engine.runPaths ⟨⟨[], .everywhere⟩, false, false⟩ mixedVolume
          [⟨.relative, ["a.txt"]⟩] none := by
  have habs : (Path.ofString "/w/x").isAbsolute = true := by decide
  have hcwd : '\\' ∉ "/w/x".toList := by decide
  obtain ⟨hone, -, hrun⟩ := displayed_names_one_file "/w/x" "../t" habs hcwd
  have hroot : (Path.ofString "../t").absolute (Path.ofString "/w/x") = ⟨.root, ["w", "t"]⟩ := by
    decide +kernel
  refine ⟨habs, hcwd, ?_, ?_, ?_⟩
  · have hfull : (Path.ofString "../t/./a//b").absolute (Path.ofString "/w/x") =
        ⟨.root, ["w", "t", "a", "b"]⟩ := by decide +kernel
    have hshown : (Path.ofString "../t/./a//b").displayed (Path.ofString "/w/x")
        (Path.ofString "../t") = "a/b" := by decide +kernel
    have hinside := (hone "../t/./a//b" (by decide)).2
    rwa [hroot, hfull, hshown] at hinside
  · have hfull : (Path.ofString "/w/x/../tt").absolute (Path.ofString "/w/x") =
        ⟨.root, ["w", "tt"]⟩ := by decide +kernel
    have hshown : (Path.ofString "/w/x/../tt").displayed (Path.ofString "/w/x")
        (Path.ofString "../t") = "/w/tt" := by decide +kernel
    have houtside := (hone "/w/x/../tt" (by decide)).2
    rwa [hroot, hfull, hshown] at houtside
  · have hspelled := (hrun ⟨⟨[], .everywhere⟩, false, false⟩ mixedVolume none ⟨.relative, ["a.txt"]⟩
      [] []).2.1 ⟨.root, ["w", "..", "w", "a.txt"]⟩ rfl (by decide)
    have hholds : mixedVolume.Holds ⟨.root, ["w", "..", "w", "a.txt"]⟩ "\uFEFF\tx\r\ny\r" := rfl
    have hholds' : mixedVolume.Holds ⟨.root, ["w", "a.txt"]⟩ "\uFEFF\tx\r\ny\r" := rfl
    refine hspelled.2 ?_ (by decide)
    exact (Volume.readText_eq_ok_iff.mpr hholds).trans (Volume.readText_eq_ok_iff.mpr hholds').symm

end Engine

end PatternLint
