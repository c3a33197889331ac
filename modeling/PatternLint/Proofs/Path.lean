import Mathlib.Logic.Relation
import PatternLint.Path
import PatternLint.Proofs.Glob.Spelling

/-!
# Paths, their texts and their double dots

The names of a path that is read from a text are not empty, are no single dots and hold no slash
(`proper_ofString`).  The text of such a path is read as the path again (`ofString_text`), so two of them
with the same text are the same.

`DotStep` takes away one double dot, together with the name before it or at the very top alone.  However
these steps are taken, they end with the names that `resolveDots` gives (`collapses_iff`): an absolute path
is determined by the names alone.
-/

namespace PatternLint.Path

open PatternLint.Text

/-! ### Proper paths -/

/-- The names are such as a text can hold between its slashes. -/
def Proper (p : Path) : Prop := ∀ n ∈ p.names, isName n = true ∧ '/' ∉ n.toList

theorem proper_ofString (s : String) : (ofString s).Proper := by
  intro n hn
  obtain ⟨hmem, hname⟩ := List.mem_filter.mp hn
  obtain ⟨piece, hpiece, rfl⟩ := List.mem_map.mp hmem
  refine ⟨hname, ?_⟩
  rw [String.toList_ofList]
  exact sep_notMem_of_mem_splitOn hpiece

/-- The text of proper names does not start with a slash. -/
theorem head?_joinWith_ne {names : List String}
    (h : ∀ n ∈ names, isName n = true ∧ '/' ∉ n.toList) :
    (joinWith "/" names).toList.head? ≠ some '/' := by
  cases names with
  | nil => decide
  | cons n names =>
    obtain ⟨hname, hslash⟩ := h n List.mem_cons_self
    have hne : n.toList ≠ [] := by
      intro hnil
      obtain rfl : n = "" := String.toList_eq_nil_iff.mp hnil
      exact absurd hname (by decide)
    have hhead : (joinWith "/" (n :: names)).toList.head? = n.toList.head? := by
      cases names with
      | nil => rfl
      | cons m names => simp [joinWith, List.head?_append_of_ne_nil _ hne]
    intro hfirst
    rw [hhead] at hfirst
    exact hslash (List.mem_of_head? hfirst)

/-- Names are found again between the slashes of their text. -/
theorem pieces_joinWith {names : List String} (hne : names ≠ []) (h : ∀ n ∈ names, '/' ∉ n.toList) :
    pieces '/' (joinWith "/" names) = names := by
  unfold pieces
  rw [splitOn_joinWith (by decide) hne h, List.map_map]
  exact (List.map_congr_left fun n _ => String.ofList_toList).trans (List.map_id names)

theorem filter_pieces_joinWith {names : List String}
    (h : ∀ n ∈ names, isName n = true ∧ '/' ∉ n.toList) :
    (pieces '/' (joinWith "/" names)).filter isName = names := by
  by_cases hne : names = []
  · subst hne
    decide
  · rw [pieces_joinWith hne fun n hn => (h n hn).2, List.filter_eq_self]
    exact fun n hn => (h n hn).1

/-! ### The text of a path -/

theorem anchorOf_append (a : Anchor) {t : List Char} (h : t.head? ≠ some '/') :
    anchorOf ((anchorText a).toList ++ t) = a := by
  have hnone : t.takeWhile (· == '/') = [] := by
    cases t with
    | nil => rfl
    | cons c t =>
      have hc : c ≠ '/' := fun hc => h (congrArg some hc)
      rw [List.takeWhile_cons, if_neg (by simpa using hc)]
  unfold anchorOf
  cases a <;> simp [anchorText, hnone]

theorem filter_pieces_anchorText (a : Anchor) (s : String) :
    (pieces '/' (anchorText a ++ s)).filter isName = (pieces '/' s).filter isName := by
  have hslash : ∀ t : List Char,
      ((splitOn '/' ('/' :: t)).map String.ofList).filter isName =
        ((splitOn '/' t).map String.ofList).filter isName := by
    intro t
    rw [splitOn, if_pos rfl, List.map_cons, List.filter_cons_of_neg (by decide)]
  unfold pieces
  rw [String.toList_append]
  cases a with
  | relative => rfl
  | root => exact hslash s.toList
  | doubleRoot => exact (hslash ('/' :: s.toList)).trans (hslash s.toList)

theorem ofString_anchorText_append {p : Path} (h : p.Proper) :
    ofString (anchorText p.anchor ++ joinWith "/" p.names) = p := by
  have hanchor := anchorOf_append p.anchor (head?_joinWith_ne h)
  unfold ofString
  rw [String.toList_append, hanchor, filter_pieces_anchorText, filter_pieces_joinWith h]

/-- A proper path is read from its text. -/
theorem ofString_text {p : Path} (h : p.Proper) : ofString p.text = p := by
  unfold text
  by_cases hhere : p = here
  · rw [if_pos hhere, hhere]
    decide
  · rw [if_neg hhere, ofString_anchorText_append h]

theorem text_inj {p q : Path} (hp : p.Proper) (hq : q.Proper) : p.text = q.text ↔ p = q := by
  refine ⟨fun h => ?_, fun h => h ▸ rfl⟩
  rw [← ofString_text hp, h, ofString_text hq]

/-! ### Double dots -/

/-- One double dot goes, together with the name before it, or alone at the top. -/
inductive DotStep : List String → List String → Prop
  | parent (front back : List String) {n : String} (hn : n ≠ "..") :
      DotStep (front ++ n :: ".." :: back) (front ++ back)
  | top (back : List String) : DotStep (".." :: back) back

/-- Such steps lead from the names to others without double dots. -/
def Collapses (names names' : List String) : Prop :=
  Relation.ReflTransGen DotStep names names' ∧ ".." ∉ names'

theorem resolveDots_append (done front back : List String) :
    resolveDots done (front ++ back) = resolveDots (resolveDots done front).reverse back := by
  induction front generalizing done with
  | nil => rw [List.nil_append, resolveDots, List.reverse_reverse]
  | cons n front ih =>
    rw [List.cons_append, resolveDots, resolveDots]
    by_cases hn : n = ".."
    · rw [if_pos hn, if_pos hn, ih]
    · rw [if_neg hn, if_neg hn, ih]

theorem resolveDots_of_notMem {done names : List String} (h : ".." ∉ names) :
    resolveDots done names = done.reverse ++ names := by
  induction names generalizing done with
  | nil => rw [resolveDots, List.append_nil]
  | cons n names ih =>
    rw [List.mem_cons, not_or] at h
    rw [resolveDots, if_neg (Ne.symm h.1), ih h.2, List.reverse_cons, List.append_assoc,
      List.singleton_append]

theorem mem_of_mem_resolveDots {done names : List String} {n : String}
    (h : n ∈ resolveDots done names) : n ∈ done ∨ n ∈ names ∧ n ≠ ".." := by
  induction names generalizing done with
  | nil => exact Or.inl (List.mem_reverse.mp h)
  | cons m names ih =>
    rw [resolveDots] at h
    by_cases hm : m = ".."
    · rw [if_pos hm] at h
      rcases ih h with hdone | ⟨hnames, hne⟩
      · exact Or.inl (List.mem_of_mem_drop hdone)
      · exact Or.inr ⟨List.mem_cons_of_mem m hnames, hne⟩
    · rw [if_neg hm] at h
      rcases ih h with hdone | ⟨hnames, hne⟩
      · rcases List.mem_cons.mp hdone with rfl | hdone
        · exact Or.inr ⟨List.mem_cons_self, hm⟩
        · exact Or.inl hdone
      · exact Or.inr ⟨List.mem_cons_of_mem m hnames, hne⟩

theorem dots_notMem_resolveDots (names : List String) : ".." ∉ resolveDots [] names := by
  intro h
  rcases mem_of_mem_resolveDots h with hdone | ⟨-, hne⟩
  · simp at hdone
  · exact hne rfl

theorem resolveDots_of_step {names names' : List String} (h : DotStep names names') :
    resolveDots [] names = resolveDots [] names' := by
  cases h with
  | parent front back hn =>
    rw [resolveDots_append, resolveDots_append, resolveDots, if_neg hn, resolveDots, if_pos rfl]
    rfl
  | top back =>
    rw [resolveDots, if_pos rfl]
    rfl

theorem resolveDots_of_steps {names names' : List String}
    (h : Relation.ReflTransGen DotStep names names') : resolveDots [] names = resolveDots [] names' := by
  induction h with
  | refl => rfl
  | tail _ hstep ih => exact ih.trans (resolveDots_of_step hstep)

/-- The walk over the names takes one step for each double dot; the names so far hold none. -/
theorem steps_resolveDots {done : List String} (hdone : ".." ∉ done) (names : List String) :
    Relation.ReflTransGen DotStep (done.reverse ++ names) (resolveDots done names) := by
  induction names generalizing done with
  | nil => rw [resolveDots, List.append_nil]
  | cons n names ih =>
    rw [resolveDots]
    by_cases hn : n = ".."
    · subst hn
      rw [if_pos rfl]
      cases done with
      | nil => exact .head (.top names) (ih hdone)
      | cons d done =>
        rw [List.mem_cons, not_or] at hdone
        rw [List.reverse_cons, List.append_assoc, List.singleton_append]
        exact .head (.parent done.reverse names (Ne.symm hdone.1)) (ih hdone.2)
    · rw [if_neg hn]
      have hlater : ".." ∉ n :: done := by
        rw [List.mem_cons, not_or]
        exact ⟨Ne.symm hn, hdone⟩
      have hsteps := ih hlater
      rwa [List.reverse_cons, List.append_assoc, List.singleton_append] at hsteps

/-- However the steps are taken, they end with the same names. -/
theorem collapses_iff {names names' : List String} :
    Collapses names names' ↔ names' = resolveDots [] names := by
  constructor
  · rintro ⟨hsteps, hdots⟩
    rw [resolveDots_of_steps hsteps, resolveDots_of_notMem hdots]
    rfl
  · rintro rfl
    exact ⟨steps_resolveDots List.not_mem_nil names, dots_notMem_resolveDots names⟩

/-! ### Absolute paths -/

section Absolute

variable {p cwd : Path}

theorem under_of_isAbsolute {base : Path} (hp : p.isAbsolute = true) : p.under base = p := by
  unfold under
  rw [if_pos hp]

theorem isAbsolute_under (hcwd : cwd.isAbsolute = true) : (p.under cwd).isAbsolute = true := by
  unfold under
  by_cases hp : p.isAbsolute = true
  · rw [if_pos hp, hp]
  · rw [if_neg hp]
    exact hcwd

theorem isAbsolute_absolute (hcwd : cwd.isAbsolute = true) : (p.absolute cwd).isAbsolute = true :=
  isAbsolute_under hcwd

/-- What holds of the names of a path and of the base holds of the names of the absolute path. -/
theorem forall_names_absolute {P : String → Prop} (hp : ∀ n ∈ p.names, P n)
    (hcwd : ∀ n ∈ cwd.names, P n) : ∀ n ∈ (p.absolute cwd).names, P n := by
  intro n hn
  rcases mem_of_mem_resolveDots hn with hdone | ⟨hunder, -⟩
  · simp at hdone
  · unfold under at hunder
    split_ifs at hunder
    · exact hp n hunder
    · rcases List.mem_append.mp hunder with hn | hn
      · exact hcwd n hn
      · exact hp n hn

/-- An absolute path without double dots stays as it is. -/
theorem absolute_absolute (hcwd : cwd.isAbsolute = true) (cwd' : Path) :
    (p.absolute cwd).absolute cwd' = p.absolute cwd := by
  have hdots : ".." ∉ (p.absolute cwd).names := dots_notMem_resolveDots _
  change (⟨((p.absolute cwd).under cwd').anchor,
    resolveDots [] ((p.absolute cwd).under cwd').names⟩ : Path) = p.absolute cwd
  rw [under_of_isAbsolute (isAbsolute_absolute hcwd), resolveDots_of_notMem hdots]
  rfl

end Absolute

end PatternLint.Path
