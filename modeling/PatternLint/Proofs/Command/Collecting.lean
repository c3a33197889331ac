import Mathlib.Data.List.Lex
import Mathlib.Data.String.Basic
import Mathlib.Tactic
import PatternLint.Command.Collect
import PatternLint.Proofs.Path

/-!
# What paths on the command line stand for

`Volume.Below` says which chains of names lead from a directory down to an entry, over directories alone.
The walk of a tree meets exactly these (`Volume.mem_below`), and the depth that it is given reaches all of
them.  A path stands for itself or, if it is a directory, for files below it (`StandsFor`).

Paths are taken one after the other: each adds, in the order of their names, the files that no path before
it stands for (`collect_concat`).  So a collection has every file once, in an order that `Before` says
without any lists (`Collection`), and there is only one such list (`Collection.unique`).
-/

namespace PatternLint

open PatternLint.Text

/-! ### Below a directory -/

namespace Volume

/-- Names that lead from a place down to an entry; all but the last are those of directories, links are
not passed. -/
inductive Below (v : Volume) : List String → List String → Prop
  | entry {place : List String} {n : String} (h : v.entry? (place ++ [n]) ≠ none) :
    Below v place [n]
  | inner {place names : List String} {n : String} (h : v.isDirectoryAt (place ++ [n]) = true)
    (rest : Below v (place ++ [n]) names) : Below v place (n :: names)

section Below

variable {v : Volume} {place names : List String} {n : String}

theorem entry?_ne_none_iff : v.entry? place ≠ none ↔ ∃ e, (place, e) ∈ v.entries := by
  unfold entry?
  rw [← Option.isSome_iff_ne_none, List.lookup_isSome_iff]
  constructor
  · rintro ⟨⟨q, e⟩, hmem, hq⟩
    obtain rfl : place = q := eq_of_beq hq
    exact ⟨e, hmem⟩
  · rintro ⟨e, hmem⟩
    exact ⟨(place, e), hmem, beq_self_eq_true place⟩

theorem mem_namesIn : n ∈ v.namesIn place ↔ v.entry? (place ++ [n]) ≠ none := by
  unfold namesIn
  rw [entry?_ne_none_iff, List.mem_filterMap]
  constructor
  · rintro ⟨⟨q, e⟩, hmem, hq⟩
    dsimp only at hq
    split_ifs at hq with hin
    obtain ⟨hlength, hprefix⟩ := Bool.and_eq_true_iff.mp hin
    obtain ⟨rest, rfl⟩ := List.isPrefixOf_iff_prefix.mp hprefix
    have hone : rest.length = 1 := by simpa using hlength
    obtain ⟨m, rfl⟩ := List.length_eq_one_iff.mp hone
    obtain rfl : m = n := by simpa using hq
    exact ⟨e, hmem⟩
  · rintro ⟨e, hmem⟩
    exact ⟨_, hmem, by simp⟩

theorem Below.ne_none (h : v.Below place names) : v.entry? (place ++ names) ≠ none := by
  induction h with
  | entry h => exact h
  | inner _ _ ih => rwa [List.append_assoc, List.singleton_append] at ih

theorem le_foldl_max {l : List Nat} {k acc : Nat} (h : k ∈ l ∨ k ≤ acc) : k ≤ l.foldl max acc := by
  induction l generalizing acc with
  | nil => simpa using h
  | cons m l ih =>
    refine ih ?_
    rcases h with hmem | hle
    · rcases List.mem_cons.mp hmem with rfl | hmem
      · exact Or.inr (Nat.le_max_right _ _)
      · exact Or.inl hmem
    · exact Or.inr (Nat.le_trans hle (Nat.le_max_left _ _))

/-- The depth of a volume bounds every chain of names. -/
theorem Below.length_le (h : v.Below place names) : names.length ≤ v.depth := by
  obtain ⟨e, hmem⟩ := entry?_ne_none_iff.mp h.ne_none
  have hlength : (place ++ names).length ≤ (v.entries.map (·.1.length)).foldl max 0 :=
    le_foldl_max (Or.inl (List.mem_map.mpr ⟨_, hmem, rfl⟩))
  unfold depth
  rw [List.length_append] at hlength
  omega

/-- The walk meets the paths below a directory, as far as it goes down. -/
theorem mem_below_iff {d : Nat} {p child : Path} :
    child ∈ v.below d place p ↔
      ∃ names, v.Below place names ∧ names.length ≤ d ∧ child = ⟨p.anchor, p.names ++ names⟩ := by
  induction d generalizing place p with
  | zero =>
    constructor
    · intro h
      simp [below] at h
    · rintro ⟨names, hbelow, hlength, -⟩
      cases hbelow <;> simp at hlength
  | succ d ih =>
    rw [below, List.mem_flatMap]
    constructor
    · rintro ⟨n, hn, hchild⟩
      rw [mem_namesIn] at hn
      rcases List.mem_cons.mp hchild with rfl | hchild
      · exact ⟨[n], .entry hn, by simp, rfl⟩
      · split_ifs at hchild with hdir
        · obtain ⟨names, hbelow, hlength, rfl⟩ := ih.mp hchild
          refine ⟨n :: names, .inner hdir hbelow, by simpa using hlength, ?_⟩
          simp [Path.child]
        · simp at hchild
    · rintro ⟨names, hbelow, hlength, rfl⟩
      cases hbelow with
      | @entry _ n h => exact ⟨n, mem_namesIn.mpr h, List.mem_cons_self⟩
      | @inner _ names n hdir rest =>
        have hsome : v.entry? (place ++ [n]) ≠ none := by
          rw [eq_of_beq hdir]
          exact Option.some_ne_none _
        refine ⟨n, mem_namesIn.mpr hsome, List.mem_cons_of_mem _ ?_⟩
        rw [if_pos hdir]
        refine ih.mpr ⟨names, rest, by simpa using hlength, ?_⟩
        simp [Path.child]

/-- The whole walk meets all of them. -/
theorem mem_below {p child : Path} :
    child ∈ v.below v.depth place p ↔
      ∃ names, v.Below place names ∧ child = ⟨p.anchor, p.names ++ names⟩ := by
  rw [mem_below_iff]
  exact ⟨fun ⟨names, hbelow, _, hchild⟩ => ⟨names, hbelow, hchild⟩,
    fun ⟨names, hbelow, hchild⟩ => ⟨names, hbelow, hbelow.length_le, hchild⟩⟩

end Below

/-- The path leads to the directory at a place. -/
def LeadsTo (v : Volume) (p : Path) (place : List String) : Prop :=
  v.resolve true p = .ok place ∧ v.entry? place = some .directory

theorem find_eq_directory_iff {v : Volume} {p : Path} :
    v.find p = .ok .directory ↔ ∃ place, v.LeadsTo p place := by
  unfold find LeadsTo
  cases hplace : v.resolve true p with
  | error f => simp [bind, Except.bind]
  | ok place => cases hentry : v.entry? place <;> simp [bind, Except.bind, hentry]

end Volume

namespace Command

/-! ### The order of names -/

theorem namesLe_iff (a b : List String) : namesLe a b = true ↔ a ≤ b := by
  rw [le_iff_lt_or_eq]
  induction a generalizing b with
  | nil => cases b <;> simp [namesLe]
  | cons n a ih =>
    cases b with
    | nil => simp [namesLe]
    | cons m b =>
      rw [namesLe, List.cons_lt_cons_iff, List.cons.injEq]
      by_cases hn : n = m
      · subst hn
        simp [ih]
      · simp [hn]

theorem pairwise_mergeSort_names (l : List Path) :
    (l.mergeSort fun p q => namesLe p.names q.names).Pairwise fun p q => p.names ≤ q.names := by
  refine (List.pairwise_mergeSort ?_ ?_ l).imp fun h => (namesLe_iff _ _).mp h
  · intro p q r hpq hqr
    rw [namesLe_iff] at *
    exact hpq.trans hqr
  · intro p q
    rw [Bool.or_eq_true, namesLe_iff, namesLe_iff]
    exact le_total p.names q.names

/-! ### One path -/

/-- The path that an argument names. -/
def argument (root : Path) (raw : String) : Path := (Path.ofString raw).under root

/-- What an argument stands for: itself if it is no directory, and otherwise each file below it, unless one
of the names that lead down to it is passed over. -/
inductive StandsFor (v : Volume) (root : Path) (raw : String) : Path → Prop
  | self (h : ∀ place, ¬ v.LeadsTo (argument root raw) place) : StandsFor v root raw (argument root raw)
  | file {place names : List String} {content : List UInt8}
    (hdir : v.LeadsTo (argument root raw) place) (hbelow : v.Below place names)
    (hfile : v.find ⟨(argument root raw).anchor, (argument root raw).names ++ names⟩ =
      .ok (.file content))
    (hkept : ∀ n ∈ names, n ∉ skipped) :
    StandsFor v root raw ⟨(argument root raw).anchor, (argument root raw).names ++ names⟩

/-- The paths that have to be asked about: the argument, and everything below it if it is a directory. -/
inductive Asked (v : Volume) (root : Path) (raw : String) : Path → Prop
  | self : Asked v root raw (argument root raw)
  | below {place names : List String} (hdir : v.LeadsTo (argument root raw) place)
    (hbelow : v.Below place names) :
    Asked v root raw ⟨(argument root raw).anchor, (argument root raw).names ++ names⟩

section One

variable {v : Volume} {root p q : Path} {raw : String} {place : List String}

theorem tooLong_iff : tooLong v p = true ↔ v.find p = .error .nameTooLong := by
  unfold tooLong
  split <;> simp_all

theorem tooLongBelow?_eq_some {found ordered : List Path} {child : Path}
    (hperm : ordered.Perm found) (h : tooLongBelow? v place p found ordered = some child) :
    child ∈ found ∧ v.find child = .error .nameTooLong := by
  unfold tooLongBelow? at h
  rcases (Option.orElse_eq_some _ _ _).mp h with hdir | ⟨-, hordered⟩
  · have hboth := List.find?_some hdir
    exact ⟨List.mem_of_find?_eq_some hdir, tooLong_iff.mp (Bool.and_eq_true_iff.mp hboth).2⟩
  · exact ⟨hperm.mem_iff.mp (List.mem_of_find?_eq_some hordered),
      tooLong_iff.mp (List.find?_some hordered)⟩

theorem tooLongBelow?_eq_none {found ordered : List Path} {child : Path}
    (hperm : ordered.Perm found) (h : tooLongBelow? v place p found ordered = none)
    (hchild : child ∈ found) : v.find child ≠ .error .nameTooLong := by
  unfold tooLongBelow? at h
  obtain ⟨-, hordered⟩ := (Option.orElse_eq_none _ _).mp h
  intro hlong
  exact List.find?_eq_none.mp hordered child (hperm.mem_iff.mpr hchild) (tooLong_iff.mpr hlong)

/-- Either one of the paths below is too long, or the files among them are listed in order. -/
theorem filesBelow_cases (v : Volume) (place : List String) (p : Path) :
    (∃ child ∈ v.below v.depth place p, v.find child = .error .nameTooLong ∧
      filesBelow v place p = .error (.nameTooLong, child)) ∨
    ((∀ child ∈ v.below v.depth place p, v.find child ≠ .error .nameTooLong) ∧
      ∃ files, filesBelow v place p = .ok files ∧ files.Pairwise (fun p q => p.names ≤ q.names) ∧
        ∀ child, child ∈ files ↔ child ∈ v.below v.depth place p ∧
          (∃ content, v.find child = .ok (.file content)) ∧
          ∀ n ∈ child.names.drop p.names.length, n ∉ skipped) := by
  have hperm := List.mergeSort_perm (v.below v.depth place p) fun p q => namesLe p.names q.names
  unfold filesBelow
  dsimp only
  split
  case h_1 child hlong =>
    obtain ⟨hmem, hfind⟩ := tooLongBelow?_eq_some hperm hlong
    exact Or.inl ⟨child, hmem, hfind, rfl⟩
  case h_2 hnone =>
    refine Or.inr ⟨fun child hmem => tooLongBelow?_eq_none hperm hnone hmem, _, rfl,
      (pairwise_mergeSort_names _).filter _, fun child => ?_⟩
    rw [List.mem_filter, hperm.mem_iff, Bool.and_eq_true_iff]
    refine and_congr_right fun _ => and_congr ?_ ?_
    · split <;> simp_all
    · simp

/-- The files that an argument stands for, in order. -/
structure Expansion (v : Volume) (root : Path) (raw : String) (files : List Path) : Prop where
  mem : ∀ p, p ∈ files ↔ StandsFor v root raw p
  ordered : files.Pairwise fun p q => p.names ≤ q.names

theorem expand_of_leadsTo (h : v.LeadsTo (argument root raw) place) :
    expand v root raw = filesBelow v place (argument root raw) := by
  have hfind := Volume.find_eq_directory_iff.mpr ⟨place, h⟩
  unfold expand argument at *
  dsimp only
  rw [hfind, h.1]

theorem expand_of_tooLong (h : v.find (argument root raw) = .error .nameTooLong) :
    expand v root raw = .error (.nameTooLong, argument root raw) := by
  unfold expand argument at *
  dsimp only
  rw [h]

theorem expand_of_not_leadsTo (h : ∀ place, ¬ v.LeadsTo (argument root raw) place)
    (hlong : v.find (argument root raw) ≠ .error .nameTooLong) :
    expand v root raw = .ok [argument root raw] := by
  have hdir : v.find (argument root raw) ≠ .ok .directory := fun hfind =>
    (Volume.find_eq_directory_iff.mp hfind).elim h
  unfold expand argument at *
  dsimp only
  split
  case h_1 hfind _ => exact absurd hfind hdir
  case h_2 hfind => exact absurd hfind hlong
  case h_3 => rfl

theorem expansion_of_leadsTo {files : List Path} (h : v.LeadsTo (argument root raw) place)
    (hordered : files.Pairwise fun p q => p.names ≤ q.names)
    (hmem : ∀ child, child ∈ files ↔ child ∈ v.below v.depth place (argument root raw) ∧
      (∃ content, v.find child = .ok (.file content)) ∧
      ∀ n ∈ child.names.drop (argument root raw).names.length, n ∉ skipped) :
    Expansion v root raw files := by
  refine ⟨fun child => ?_, hordered⟩
  rw [hmem, Volume.mem_below]
  constructor
  · rintro ⟨⟨names, hbelow, rfl⟩, ⟨content, hfile⟩, hkept⟩
    rw [List.drop_left] at hkept
    exact .file h hbelow hfile hkept
  · intro hstands
    cases hstands with
    | self hno => exact absurd h (hno place)
    | @file place' names content hdir hbelow hfile hkept =>
      obtain rfl : place = place' := Except.ok.inj (h.1.symm.trans hdir.1)
      refine ⟨⟨names, hbelow, rfl⟩, ⟨content, hfile⟩, ?_⟩
      rwa [List.drop_left]

/-- An argument either makes something be asked about that is too long, or is expanded. -/
theorem expand_cases (v : Volume) (root : Path) (raw : String) :
    (∃ p, Asked v root raw p ∧ v.find p = .error .nameTooLong ∧
      expand v root raw = .error (.nameTooLong, p)) ∨
    ((∀ p, Asked v root raw p → v.find p ≠ .error .nameTooLong) ∧
      ∃ files, expand v root raw = .ok files ∧ Expansion v root raw files) := by
  by_cases hlong : v.find (argument root raw) = .error .nameTooLong
  · exact Or.inl ⟨_, .self, hlong, expand_of_tooLong hlong⟩
  by_cases hdir : ∃ place, v.LeadsTo (argument root raw) place
  · obtain ⟨place, hdir⟩ := hdir
    rw [expand_of_leadsTo hdir]
    rcases filesBelow_cases v place (argument root raw) with
      ⟨child, hmem, hfind, herror⟩ | ⟨hnone, files, hok, hordered, hmem⟩
    · obtain ⟨names, hbelow, rfl⟩ := Volume.mem_below.mp hmem
      exact Or.inl ⟨_, .below hdir hbelow, hfind, herror⟩
    · refine Or.inr ⟨fun p hp => ?_, files, hok, expansion_of_leadsTo hdir hordered hmem⟩
      cases hp with
      | self => exact hlong
      | @below place' names hdir' hbelow =>
        obtain rfl : place = place' := Except.ok.inj (hdir.1.symm.trans hdir'.1)
        exact hnone _ (Volume.mem_below.mpr ⟨names, hbelow, rfl⟩)
  · have hself : ∀ place, ¬ v.LeadsTo (argument root raw) place := fun place h => hdir ⟨place, h⟩
    refine Or.inr ⟨fun p hp => ?_, _, expand_of_not_leadsTo hself hlong, fun p => ?_,
      List.pairwise_singleton _ _⟩
    · cases hp with
      | self => exact hlong
      | below h => exact absurd h (hself _)
    · rw [List.mem_singleton]
      constructor
      · rintro rfl
        exact .self hself
      · intro hstands
        cases hstands with
        | self => rfl
        | file h => exact absurd h (hself _)

theorem StandsFor.names_inj (hp : StandsFor v root raw p) (hq : StandsFor v root raw q)
    (h : p.names = q.names) : p = q := by
  have hanchor : ∀ {p : Path}, StandsFor v root raw p → p.anchor = (argument root raw).anchor := by
    rintro _ (_ | _) <;> rfl
  obtain ⟨anchor, names⟩ := p
  obtain ⟨anchor', names'⟩ := q
  obtain rfl : anchor = anchor' := (hanchor hp).trans (hanchor hq).symm
  exact congrArg _ h

theorem StandsFor.asked (h : StandsFor v root raw p) : Asked v root raw p := by
  cases h with
  | self => exact .self
  | file hdir hbelow => exact .below hdir hbelow

/-- A directory is never among the files that are stood for. -/
theorem StandsFor.not_leadsTo (h : StandsFor v root raw p) (place : List String) :
    ¬ v.LeadsTo p place := by
  intro hdir
  cases h with
  | self hno => exact hno place hdir
  | file _ _ hfile _ =>
    have hfind := Volume.find_eq_directory_iff.mpr ⟨place, hdir⟩
    rw [hfile] at hfind
    cases hfind

end One

/-! ### All paths -/

/-- The first argument that stands for one of two files says which of them is before the other: the one
that it stands for, and of two in the same directory the one with the smaller names. -/
def Before (v : Volume) (root : Path) : List String → Path → Path → Prop
  | [], _, _ => False
  | raw :: raws, p, q =>
    StandsFor v root raw p ∧ (StandsFor v root raw q → p.names < q.names) ∨
    ¬ StandsFor v root raw p ∧ ¬ StandsFor v root raw q ∧ Before v root raws p q

/-- Every file that one of the arguments stands for, once and in order. -/
structure Collection (v : Volume) (root : Path) (raws : List String) (files : List Path) : Prop where
  nodup : files.Nodup
  mem : ∀ p, p ∈ files ↔ ∃ raw ∈ raws, StandsFor v root raw p
  ordered : files.Pairwise (Before v root raws)

section All

variable {v : Volume} {root p q : Path} {raw : String} {raws : List String} {files new : List Path}

theorem Before.asymm (h : Before v root raws p q) : ¬ Before v root raws q p := by
  induction raws with
  | nil => exact h.elim
  | cons raw raws ih =>
    rintro (⟨hq, hqp⟩ | ⟨hq, hp, hlater⟩)
    · rcases h with ⟨hp, hpq⟩ | ⟨-, hq', -⟩
      · exact lt_asymm (hpq hq) (hqp hp)
      · exact hq' hq
    · rcases h with ⟨hp', -⟩ | ⟨-, -, hlater'⟩
      · exact hp hp'
      · exact ih hlater' hlater

theorem Before.append (h : Before v root raws p q) (more : List String) :
    Before v root (raws ++ more) p q := by
  induction raws with
  | nil => exact h.elim
  | cons raw raws ih =>
    rcases h with hfirst | ⟨hp, hq, hlater⟩
    · exact Or.inl hfirst
    · exact Or.inr ⟨hp, hq, ih hlater⟩

/-- A file that an argument stands for is before one that none does. -/
theorem before_of_new (hp : ∃ raw ∈ raws, StandsFor v root raw p)
    (hq : ∀ raw ∈ raws, ¬ StandsFor v root raw q) : Before v root raws p q := by
  induction raws with
  | nil => simp at hp
  | cons raw raws ih =>
    have hq' := hq raw List.mem_cons_self
    by_cases hfirst : StandsFor v root raw p
    · exact Or.inl ⟨hfirst, fun h => absurd h hq'⟩
    · obtain ⟨other, hmem, hother⟩ := hp
      rcases List.mem_cons.mp hmem with rfl | hmem
      · exact absurd hother hfirst
      · exact Or.inr ⟨hfirst, hq', ih ⟨other, hmem, hother⟩ fun r hr => hq r (List.mem_cons_of_mem _ hr)⟩

/-- Of two files that only the last argument stands for, the smaller one is first. -/
theorem before_of_last (hp : ∀ raw ∈ raws, ¬ StandsFor v root raw p)
    (hq : ∀ raw ∈ raws, ¬ StandsFor v root raw q) (hlast : StandsFor v root raw p)
    (hlt : p.names < q.names) : Before v root (raws ++ [raw]) p q := by
  induction raws with
  | nil => exact Or.inl ⟨hlast, fun _ => hlt⟩
  | cons other raws ih =>
    exact Or.inr ⟨hp other List.mem_cons_self, hq other List.mem_cons_self,
      ih (fun r hr => hp r (List.mem_cons_of_mem _ hr)) fun r hr => hq r (List.mem_cons_of_mem _ hr)⟩

/-- There is only one such list. -/
theorem Collection.unique {files' : List Path} (h : Collection v root raws files)
    (h' : Collection v root raws files') : files = files' := by
  refine List.Perm.eq_of_pairwise (fun p q _ _ hpq hqp => absurd hqp hpq.asymm) h.ordered h'.ordered ?_
  exact (List.perm_ext_iff_of_nodup h.nodup h'.nodup).mpr fun p => (h.mem p).trans (h'.mem p).symm

/-! ### Argument after argument -/

theorem eraseDups_sublist (l : List Path) : l.eraseDups.Sublist l := by
  match l with
  | [] => simp
  | p :: l =>
    rw [List.eraseDups_cons]
    exact ((eraseDups_sublist _).trans List.filter_sublist).cons_cons p
termination_by l.length
decreasing_by
  have hle := List.length_filter_le (fun q => !q == p) l
  simp only [List.length_cons]
  omega

theorem nodup_eraseDups (l : List Path) : l.eraseDups.Nodup := by
  match l with
  | [] => simp
  | p :: l =>
    rw [List.eraseDups_cons, List.nodup_cons]
    refine ⟨fun h => ?_, nodup_eraseDups _⟩
    simp [List.mem_eraseDups] at h
termination_by l.length
decreasing_by
  have hle := List.length_filter_le (fun q => !q == p) l
  simp only [List.length_cons]
  omega

/-- The files that an argument adds to those before it. -/
def added (files new : List Path) : List Path := (new.removeAll files).eraseDups

theorem mem_added : p ∈ added files new ↔ p ∈ new ∧ p ∉ files := by
  unfold added
  rw [List.mem_eraseDups, List.removeAll, List.mem_filter]
  simp

theorem added_eq_nil (h : ∀ p ∈ new, p ∈ files) : added files new = [] :=
  List.eq_nil_iff_forall_not_mem.mpr fun p hp => (mem_added.mp hp).2 (h p (mem_added.mp hp).1)

/-- The last argument is expanded when all before it are, and adds its files at the end. -/
theorem collect_concat (v : Volume) (root : Path) (raws : List String) (raw : String) :
    collect v root (raws ++ [raw]) = (do
      let files ← collect v root raws
      let new ← expand v root raw
      .ok (files ++ added files new)) := by
  unfold collect added
  rw [List.mapM_append, List.mapM_cons, List.mapM_nil]
  generalize raws.mapM (expand v root) = before
  generalize expand v root raw = last
  cases before with
  | error e => rfl
  | ok found =>
    cases last with
    | error e => rfl
    | ok new =>
      have hsame : new.removeAll found.flatten.eraseDups = new.removeAll found.flatten := by
        unfold List.removeAll
        exact List.filter_congr fun p _ => by simp [List.mem_eraseDups]
      have hflat : (found ++ [new]).flatten = found.flatten ++ new := by simp
      change Except.ok (found ++ [new]).flatten.eraseDups = _
      rw [hflat, List.eraseDups_append, ← hsame]
      rfl

theorem Collection.concat (h : Collection v root raws files) (hnew : Expansion v root raw new) :
    Collection v root (raws ++ [raw]) (files ++ added files new) := by
  -- what is added is stood for by the last argument, and by none before it
  have hlast : ∀ p ∈ added files new, StandsFor v root raw p := fun p hp =>
    (hnew.mem p).mp (mem_added.mp hp).1
  have hnone : ∀ p ∈ added files new, ∀ r ∈ raws, ¬ StandsFor v root r p := fun p hp r hr hstands =>
    (mem_added.mp hp).2 ((h.mem p).mpr ⟨r, hr, hstands⟩)
  refine ⟨?_, fun p => ?_, ?_⟩
  · refine List.nodup_append.mpr ⟨h.nodup, nodup_eraseDups _, fun p hp q hq hpq => ?_⟩
    exact (mem_added.mp hq).2 (hpq ▸ hp)
  · rw [List.mem_append, mem_added, hnew.mem, h.mem]
    by_cases hbefore : ∃ r ∈ raws, StandsFor v root r p
    · obtain ⟨r, hr, hstands⟩ := hbefore
      exact iff_of_true (Or.inl ⟨r, hr, hstands⟩) ⟨r, List.mem_append_left _ hr, hstands⟩
    · simp only [hbefore, false_or, not_false_eq_true, and_true, List.mem_append,
        List.mem_singleton]
      refine ⟨fun hstands => ⟨raw, Or.inr rfl, hstands⟩, ?_⟩
      rintro ⟨r, hr | rfl, hstands⟩
      · exact absurd ⟨r, hr, hstands⟩ hbefore
      · exact hstands
  · rw [List.pairwise_append]
    refine ⟨h.ordered.imp fun hpq => hpq.append [raw], ?_, fun p hp q hq => ?_⟩
    · have hsorted : (added files new).Pairwise fun p q => p.names ≤ q.names :=
        hnew.ordered.sublist ((eraseDups_sublist _).trans List.filter_sublist)
      refine ((hsorted.and (nodup_eraseDups _)).imp_of_mem ?_)
      rintro p q hp hq ⟨hle, hne⟩
      -- one argument stands for both, so they start alike and differ in their names
      have hnames : p.names ≠ q.names := fun heq => hne ((hlast p hp).names_inj (hlast q hq) heq)
      exact before_of_last (hnone p hp) (hnone q hq) (hlast p hp) (lt_of_le_of_ne hle hnames)
    · exact (before_of_new ((h.mem p).mp hp) (hnone q hq)).append [raw]

/-- None of the paths that have to be asked about is too long. -/
def Askable (v : Volume) (root : Path) (raws : List String) : Prop :=
  ∀ raw ∈ raws, ∀ p, Asked v root raw p → v.find p ≠ .error .nameTooLong

/-- Either a path that has to be asked about is too long, or the files are collected. -/
theorem collect_cases (v : Volume) (root : Path) (raws : List String) :
    (∃ raw ∈ raws, ∃ p, Asked v root raw p ∧ v.find p = .error .nameTooLong ∧
      collect v root raws = .error (.nameTooLong, p)) ∨
    (Askable v root raws ∧ ∃ files, collect v root raws = .ok files ∧ Collection v root raws files) := by
  induction raws using List.reverseRecOn with
  | nil =>
    refine Or.inr ⟨fun raw hraw => ?_, [], rfl, .nil, fun p => ?_, .nil⟩
    · simp at hraw
    · simp
  | append_singleton raws raw ih =>
    rw [collect_concat]
    rcases ih with ⟨r, hr, p, hasked, hlong, herror⟩ | ⟨hall, files, hok, hfiles⟩
    · -- the arguments are expanded from the left, so the first failure stays
      rw [herror]
      exact Or.inl ⟨r, List.mem_append_left _ hr, p, hasked, hlong, rfl⟩
    · rw [hok]
      rcases expand_cases v root raw with ⟨p, hasked, hlong, herror⟩ | ⟨hshort, new, hok', hnew⟩
      · refine Or.inl ⟨raw, List.mem_append_right _ (List.mem_singleton.mpr rfl), p, hasked, hlong, ?_⟩
        rw [herror]
        rfl
      · refine Or.inr ⟨fun r hr => ?_, _, ?_, hfiles.concat hnew⟩
        · rcases List.mem_append.mp hr with hr | hr
          · exact hall r hr
          · obtain rfl := List.mem_singleton.mp hr
            exact hshort
        · rw [hok']
          rfl

/-- An argument that only stands for files that are there already adds nothing. -/
theorem collect_concat_of_known (hok : collect v root raws = .ok files)
    (hshort : ∀ p, Asked v root raw p → v.find p ≠ .error .nameTooLong)
    (hknown : ∀ p, StandsFor v root raw p → p ∈ files) : collect v root (raws ++ [raw]) = .ok files := by
  rcases expand_cases v root raw with ⟨p, hasked, hlong, -⟩ | ⟨-, new, hok', hnew⟩
  · exact absurd hlong (hshort p hasked)
  · have hnil : added files new = [] := added_eq_nil fun p hp => hknown p ((hnew.mem p).mp hp)
    rw [collect_concat, hok, hok']
    change Except.ok (files ++ added files new) = _
    rw [hnil, List.append_nil]

/-- **The files that paths stand for.**  If no path that has to be asked about is too long, they are
collected: each once, every argument that is no directory and all files below the others but those that are
passed over, in the order of the arguments and, below a directory, of the names; no other list is like
this.  Otherwise such a path is the failure.  An argument that was given before, or that is one of the
collected files, changes nothing. -/
theorem collected_files (v : Volume) (root : Path) (raws : List String) :
    (Askable v root raws → ∃ files, collect v root raws = .ok files ∧ Collection v root raws files) ∧
    (¬ Askable v root raws → ∃ raw ∈ raws, ∃ p, Asked v root raw p ∧ v.find p = .error .nameTooLong ∧
      collect v root raws = .error (.nameTooLong, p)) ∧
    (∀ files files', Collection v root raws files → Collection v root raws files' → files = files') ∧
    (∀ raw ∈ raws, collect v root (raws ++ [raw]) = collect v root raws) ∧
    (∀ raw files, collect v root raws = .ok files → argument root raw ∈ files →
      collect v root (raws ++ [raw]) = .ok files) := by
  have hcases := collect_cases v root raws
  refine ⟨fun hall => ?_, fun hlong => ?_, fun files files' h h' => h.unique h', fun raw hraw => ?_,
    fun raw files hok harg => ?_⟩
  · rcases hcases with ⟨raw, hraw, p, hasked, hlong, -⟩ | ⟨-, hfiles⟩
    · exact absurd hlong (hall raw hraw p hasked)
    · exact hfiles
  · exact hcases.resolve_right fun hfiles => hlong hfiles.1
  · rcases hcases with ⟨-, -, p, -, -, herror⟩ | ⟨hall, files, hok, hfiles⟩
    · rw [collect_concat, herror]
      rfl
    · rw [hok]
      exact collect_concat_of_known hok (hall raw hraw) fun p hp => (hfiles.mem p).mpr ⟨raw, hraw, hp⟩
  · rcases hcases with ⟨-, -, p, -, -, herror⟩ | ⟨hall, files', hok', hfiles⟩
    · rw [herror] at hok
      cases hok
    obtain rfl : files' = files := Except.ok.inj (hok'.symm.trans hok)
    -- what stands in a collection is no directory, so the argument stands for itself alone
    obtain ⟨r, hr, hstands⟩ := (hfiles.mem _).mp harg
    have hself := hstands.not_leadsTo
    refine collect_concat_of_known hok (fun p hp => ?_) fun p hp => ?_
    · cases hp with
      | self => exact hall r hr _ hstands.asked
      | below hdir => exact absurd hdir (hself _)
    · cases hp with
      | self => exact harg
      | file hdir => exact absurd hdir (hself _)

end All

/-- A directory with a file, a link to it and what a version control system keeps. -/
def linkedVolume : Volume :=
  ⟨["w"], [([], .directory), (["w"], .directory), (["w", "d"], .directory),
    (["w", "d", "b"], .file []), (["w", "d", "a"], .link "b"), (["w", "d", ".git"], .directory),
    (["w", "d", ".git", "c"], .file [])]⟩

/-- A directory, a file in a part of it that is passed over, one that is not there, and a file of the
directory in another spelling. -/
def linkedPaths : List String := ["d", "d/.git/c", "gone", "d//a"]

theorem linkedPaths_collected :
    Collection linkedVolume ⟨.root, ["w"]⟩ linkedPaths
      [⟨.root, ["w", "d", "a"]⟩, ⟨.root, ["w", "d", "b"]⟩, ⟨.root, ["w", "d", ".git", "c"]⟩,
        ⟨.root, ["w", "gone"]⟩] := by
  have hfiles : filesBelow linkedVolume ["w", "d"] ⟨.root, ["w", "d"]⟩ =
      .ok [⟨.root, ["w", "d", "a"]⟩, ⟨.root, ["w", "d", "b"]⟩] := by
    have hbelow : linkedVolume.below linkedVolume.depth ["w", "d"] ⟨.root, ["w", "d"]⟩ =
        [⟨.root, ["w", "d", "b"]⟩, ⟨.root, ["w", "d", "a"]⟩, ⟨.root, ["w", "d", ".git"]⟩,
          ⟨.root, ["w", "d", ".git", "c"]⟩] := by
      decide +kernel
    have hsorted : [⟨.root, ["w", "d", "b"]⟩, ⟨.root, ["w", "d", "a"]⟩, ⟨.root, ["w", "d", ".git"]⟩,
        ⟨.root, ["w", "d", ".git", "c"]⟩].mergeSort (fun a b : Path => namesLe a.names b.names) =
          [⟨.root, ["w", "d", ".git"]⟩, ⟨.root, ["w", "d", ".git", "c"]⟩, ⟨.root, ["w", "d", "a"]⟩,
            ⟨.root, ["w", "d", "b"]⟩] := by
      cbv
    unfold filesBelow
    rw [hbelow]
    dsimp only
    rw [hsorted]
    decide +kernel
  have hdir : expand linkedVolume ⟨.root, ["w"]⟩ "d" =
      .ok [⟨.root, ["w", "d", "a"]⟩, ⟨.root, ["w", "d", "b"]⟩] := by
    refine (expand_of_leadsTo ⟨?_, ?_⟩).trans hfiles <;> decide +kernel
  have hfound : collect linkedVolume ⟨.root, ["w"]⟩ linkedPaths =
      .ok [⟨.root, ["w", "d", "a"]⟩, ⟨.root, ["w", "d", "b"]⟩, ⟨.root, ["w", "d", ".git", "c"]⟩,
        ⟨.root, ["w", "gone"]⟩] := by
    unfold collect linkedPaths
    rw [List.mapM_cons, hdir]
    decide +kernel
  obtain ⟨hall, hlong, -⟩ := collected_files linkedVolume ⟨.root, ["w"]⟩ linkedPaths
  -- the files are found, so nothing can have been too long
  by_cases haskable : Askable linkedVolume ⟨.root, ["w"]⟩ linkedPaths
  · obtain ⟨files, hok, hcollection⟩ := hall haskable
    rw [hfound] at hok
    exact Except.ok.inj hok ▸ hcollection
  · obtain ⟨-, -, p, -, -, herror⟩ := hlong haskable
    rw [hfound] at herror
    cases herror

/-- A name with one character more than a name may have octets. -/
def longName : String := String.ofList (List.replicate 256 'a')

theorem toList_longName : longName.toList = List.replicate 256 'a' := String.toList_ofList

theorem longName_ne {s : String} (h : s.length < 256) : longName ≠ s := by
  rintro rfl
  rw [← String.length_toList, toList_longName, List.length_replicate] at h
  omega

theorem argument_longName : argument ⟨.root, ["w"]⟩ longName = ⟨.root, ["w", longName]⟩ := by
  have hproper : Path.Proper ⟨.relative, [longName]⟩ := by
    intro n hn
    obtain rfl := List.mem_singleton.mp hn
    constructor
    · have hempty : longName ≠ "" := longName_ne (by decide)
      have hdot : longName ≠ "." := longName_ne (by decide)
      simp [Path.isName, hempty, hdot]
    · intro hslash
      rw [toList_longName] at hslash
      exact absurd (List.eq_of_mem_replicate hslash) (by decide)
  have hread := Path.ofString_text hproper
  have htext : (⟨.relative, [longName]⟩ : Path).text = longName := by
    simp [Path.text, Path.here, Path.anchorText, joinWith]
  rw [htext] at hread
  unfold argument
  rw [hread]
  rfl

theorem longName_tooLong :
    (Volume.empty ["w"]).find (argument ⟨.root, ["w"]⟩ longName) = .error .nameTooLong := by
  have hlength : Volume.nameLimit < (encode longName).length := by
    unfold encode
    rw [toList_longName]
    decide +kernel
  have hlast : (Volume.empty ["w"]).walkNames true ["w"] [longName] = .blocked .nameTooLong := by
    rw [Volume.walkNames, if_neg (by decide), if_neg (longName_ne (by decide)),
      if_neg (longName_ne (by decide)), if_pos hlength]
  have hwalk : (Volume.empty ["w"]).walkNames true [] ["w", longName] = .blocked .nameTooLong := by
    have hentry : Volume.entry? (Volume.empty ["w"]) ([] ++ ["w"]) = some .directory := by decide
    rw [Volume.walkNames, if_neg (by decide), if_neg (by decide), if_neg (by decide),
      if_neg (by decide), hentry]
    exact hlast
  have hresolve : (Volume.empty ["w"]).resolve true ⟨.root, ["w", longName]⟩ =
      .error .nameTooLong := by
    unfold Volume.resolve
    split_ifs with hlong habs
    · rfl
    · simp only [Volume.walk, hwalk]
    · exact absurd rfl habs
  rw [argument_longName, Volume.find, hresolve]
  rfl

theorem longName_not_collected :
    let v : Volume := Volume.empty ["w"]
    StandsFor v ⟨.root, ["w"]⟩ longName (argument ⟨.root, ["w"]⟩ longName) ∧
      ¬ ∃ files, collect v ⟨.root, ["w"]⟩ [longName] = .ok files := by
  intro v
  refine ⟨.self fun place hdir => ?_, ?_⟩
  · have hfind := Volume.find_eq_directory_iff.mpr ⟨place, hdir⟩
    rw [longName_tooLong] at hfind
    cases hfind
  · rintro ⟨files, hok⟩
    rcases collect_cases v ⟨.root, ["w"]⟩ [longName] with ⟨-, -, p, -, -, herror⟩ | ⟨hall, -⟩
    · rw [herror] at hok
      cases hok
    · exact hall longName List.mem_cons_self _ .self longName_tooLong

end Command

end PatternLint
