import PatternLint.Proofs.Glob.Splitting
import PatternLint.Proofs.Scope
import PatternLint.Proofs.Text.Pieces

/-!
# Spellings of a glob

A glob is matched only through `prepare`: backslashes are slashes, `./` and slashes at the start are
dropped, and slashes at the end stand for everything below.  So spellings that `prepare` brings to the same
text match the same paths (`matchesChars_congr`), and each law of this module says which spellings these
are.

A glob that is one name is the exception: it is tried on the last segment of the path.  `**` in front of
it says the same (`matchesChars_anywhere`).
-/

namespace PatternLint

open PatternLint.Text

namespace Path

theorem slashed_eq_slash {c : Char} : slashed c = '/' ↔ c = '/' ∨ c = '\\' := by
  unfold slashed
  split_ifs with h
  · simp [h]
  · simp [h]

theorem slashed_eq_dot {c : Char} : slashed c = '.' ↔ c = '.' := by
  unfold slashed
  split_ifs with h
  · subst h
    decide
  · rfl

theorem map_slashed {s : List Char} (h : '\\' ∉ s) : s.map slashed = s := by
  refine (List.map_congr_left fun c hc => ?_).trans (List.map_id s)
  have hne : c ≠ '\\' := fun heq => h (heq ▸ hc)
  rw [slashed, if_neg hne, id]

/-- A text starts with `./` once its backslashes are slashes only if it does so in one of two ways. -/
theorem dot_prefix_of_map {s : List Char} (h : ['.', '/'] <+: s.map slashed) :
    ['.', '/'] <+: s ∨ ['.', '\\'] <+: s := by
  obtain ⟨rest, hrest⟩ := h
  rcases s with _ | ⟨c, _ | ⟨d, s⟩⟩
  · simp at hrest
  · simp at hrest
  · obtain ⟨hc, htail⟩ := List.cons.inj hrest
    obtain ⟨hd, -⟩ := List.cons.inj htail
    obtain rfl := slashed_eq_dot.mp hc.symm
    rcases slashed_eq_slash.mp hd.symm with rfl | rfl
    · exact Or.inl ⟨s, rfl⟩
    · exact Or.inr ⟨s, rfl⟩

theorem dropDots_eq_self {s : List Char} (h : ¬ ['.', '/'] <+: s) : dropDots s = s := by
  rw [dropDots]
  rintro rest rfl
  exact h ⟨rest, rfl⟩

/-- What follows a text that is no mere run of dots and slashes stays behind it. -/
theorem dropDots_append {s : List Char} (h : ∃ c ∈ s, c ≠ '.' ∧ c ≠ '/') (t : List Char) :
    dropDots (s ++ t) = dropDots s ++ t ∧ ∃ c ∈ dropDots s, c ≠ '.' ∧ c ≠ '/' := by
  fun_induction dropDots s with
  | case1 rest ih =>
    obtain ⟨c, hc, hdot, hslash⟩ := h
    have hrest : c ∈ rest := by simpa [hdot, hslash] using hc
    exact ih ⟨c, hrest, hdot, hslash⟩
  | case2 s hs =>
    refine ⟨dropDots_eq_self ?_, h⟩
    rintro ⟨rest, hrest⟩
    obtain ⟨c, hc, hdot, -⟩ := h
    -- a cut inside `./` would leave a text of one dot
    rcases s with _ | ⟨a, _ | ⟨b, s⟩⟩
    · simp at hc
    · obtain rfl : c = a := by simpa using hc
      exact hdot (List.cons.inj hrest).1.symm
    · obtain ⟨rfl, htail⟩ := List.cons.inj hrest
      obtain ⟨rfl, -⟩ := List.cons.inj htail
      exact hs s rfl

/-- The last segment of a path: what stands behind its last slash. -/
def lastSegment (path : List Char) : List Char := (normalizeChars path).rtakeWhile (· != '/')

end Path

namespace Glob

/-! ### The form that is matched -/

theorem matchesChars_congr {path glob glob' : List Char} (h : prepare glob = prepare glob') :
    matchesChars path glob = matchesChars path glob' := by
  unfold matchesChars
  rw [h]

/-- The normal form of a glob without the slashes at its start. -/
def body (glob : List Char) : List Char := (Path.normalizeChars glob).dropWhile (· == '/')

theorem prepare_eq (glob : List Char) :
    prepare glob =
      if (body glob).getLast? = some '/' then (body glob).rdropWhile (· == '/') ++ ['/', '*', '*']
      else body glob := by
  unfold prepare body List.rdropWhile
  simp only [beq_iff_eq]

theorem prepare_congr {glob glob' : List Char} (h : body glob = body glob') :
    prepare glob = prepare glob' := by
  rw [prepare_eq, prepare_eq, h]

theorem prepare_normalizeChars (glob : List Char) :
    prepare (Path.normalizeChars glob) = prepare glob := by
  refine prepare_congr ?_
  rw [body, body, Path.normalizeChars_normalizeChars]

theorem prepare_eq_self {glob : List Char} (hback : '\\' ∉ glob) (hdot : ¬ ['.', '/'] <+: glob)
    (hfirst : glob.head? ≠ some '/') (hlast : glob.getLast? ≠ some '/') : prepare glob = glob := by
  have hbody : body glob = glob := by
    rw [body, Path.normalizeChars, Path.map_slashed hback, Path.dropDots_eq_self hdot]
    cases glob with
    | nil => rfl
    | cons c glob => simpa using hfirst
  rw [prepare_eq, hbody, if_neg hlast]

/-- A slash at the start is dropped, together with those behind it. -/
theorem body_slash {glob : List Char} (hdot : ¬ ['.', '/'] <+: glob)
    (hback : ¬ ['.', '\\'] <+: glob) : body ('/' :: glob) = body glob := by
  have hnormal : Path.normalizeChars glob = glob.map Path.slashed := by
    refine Path.dropDots_eq_self fun h => ?_
    rcases Path.dot_prefix_of_map h with h | h
    · exact hdot h
    · exact hback h
  have hslash : Path.normalizeChars ('/' :: glob) = '/' :: glob.map Path.slashed :=
    Path.dropDots_eq_self (by simp [Path.slashed])
  rw [body, body, hnormal, hslash]
  rfl

section Directory

variable {glob : List Char}

/-- A glob with a name in it keeps what is put behind it, but for the backslashes. -/
theorem body_append (h : ∃ c ∈ glob, c ≠ '.' ∧ c ≠ '/' ∧ c ≠ '\\') (tail : List Char) :
    body (glob ++ tail) = body glob ++ tail.map Path.slashed := by
  obtain ⟨c, hc, hdot, hslash, hback⟩ := h
  have hkeep : ∃ d ∈ glob.map Path.slashed, d ≠ '.' ∧ d ≠ '/' := by
    refine ⟨Path.slashed c, List.mem_map_of_mem hc, ?_, ?_⟩
    · exact fun h => hdot (Path.slashed_eq_dot.mp h)
    · exact fun h => (Path.slashed_eq_slash.mp h).elim hslash hback
  obtain ⟨happend, d, hd, -, hd'⟩ := Path.dropDots_append hkeep (tail.map Path.slashed)
  have hne : (Path.dropDots (glob.map Path.slashed)).dropWhile (· == '/') ≠ [] := by
    intro hnil
    exact hd' (by simpa using List.dropWhile_eq_nil_iff.mp hnil d hd)
  unfold body Path.normalizeChars
  rw [List.map_append, happend, List.dropWhile_append, if_neg (by simpa using hne)]

theorem getLast?_body (hslash : glob.getLast? ≠ some '/') (hback : glob.getLast? ≠ some '\\') :
    (body glob).getLast? ≠ some '/' := by
  intro h
  obtain ⟨front, hfront⟩ : body glob <:+ glob.map Path.slashed :=
    (List.dropWhile_suffix _).trans (Path.dropDots_suffix _)
  have hlast : (glob.map Path.slashed).getLast? = some '/' := by
    rw [← hfront, List.getLast?_append, h]
    rfl
  rw [List.getLast?_map, Option.map_eq_some_iff] at hlast
  obtain ⟨c, hc, hslashed⟩ := hlast
  rcases Path.slashed_eq_slash.mp hslashed with rfl | rfl
  · exact hslash hc
  · exact hback hc

/-- However many slashes stand at the end of a glob, they stand for everything below it. -/
theorem prepare_directory (hname : ∃ c ∈ glob, c ≠ '.' ∧ c ≠ '/' ∧ c ≠ '\\')
    (hslash : glob.getLast? ≠ some '/') (hback : glob.getLast? ≠ some '\\') {slashes : List Char}
    (hne : slashes ≠ []) (h : ∀ c ∈ slashes, c = '/' ∨ c = '\\') :
    prepare (glob ++ slashes) = body glob ++ ['/', '*', '*'] := by
  have htail : slashes.map Path.slashed = List.replicate slashes.length '/' := by
    refine List.eq_replicate_iff.mpr ⟨List.length_map _, ?_⟩
    simpa [Path.slashed_eq_slash] using h
  have hlast := getLast?_body hslash hback
  have hdrop : (body glob ++ List.replicate slashes.length '/').rdropWhile (· == '/') =
      body glob := by
    rw [List.rdropWhile, List.reverse_append, List.reverse_replicate,
      List.dropWhile_append_of_pos (by simp), ← List.rdropWhile, List.rdropWhile_eq_self_iff]
    intro hl heq
    exact hlast (by rw [List.getLast?_eq_some_getLast hl, eq_of_beq heq])
  have hend : (body glob ++ List.replicate slashes.length '/').getLast? = some '/' := by
    simp [List.getLast?_append, List.getLast?_replicate, hne]
  rw [prepare_eq, body_append hname, htail, if_pos hend, hdrop]

theorem prepare_below (hname : ∃ c ∈ glob, c ≠ '.' ∧ c ≠ '/' ∧ c ≠ '\\') :
    prepare (glob ++ ['/', '*', '*']) = body glob ++ ['/', '*', '*'] := by
  have hstars : ['/', '*', '*'].map Path.slashed = ['/', '*', '*'] := by decide
  rw [prepare_eq, body_append hname, hstars, if_neg (by simp)]

end Directory

/-! ### One name -/

/-- A star, and wildcards behind it that may stand for nothing, cover every segment. -/
theorem Wildcard.covers_star {ws : List Wildcard} (h : covers ws [] = true) (s : List Char) :
    covers (.star :: ws) s = true := by
  rw [covers]
  induction s with
  | nil => exact h
  | cons c s ih => rw [anySuffix, ih, Bool.or_true]

theorem matchSegment_manySegments (s : List Char) : matchSegment manySegments s = true :=
  Wildcard.covers_star (Wildcard.covers_star rfl []) s

section Names

variable {ok : List Char → List Char → Bool} {glob : List Char} {path : List (List Char)}

theorem splits_name (hg : glob ≠ manySegments) :
    Splits ok [glob] path ↔ ∃ s, path = [s] ∧ ok glob s = true := by
  rw [splits_one hg]
  constructor
  · rintro ⟨s, rest, rfl, hs, hrest⟩
    obtain rfl := splits_nil.mp hrest
    exact ⟨s, rfl, hs⟩
  · rintro ⟨s, rfl, hs⟩
    exact ⟨s, [], rfl, hs, splits_nil.mpr rfl⟩

/-- Behind `**` a name is compared with the last segment. -/
theorem splits_many_name (hg : glob ≠ manySegments) (front : List (List Char)) (last : List Char) :
    Splits ok [manySegments, glob] (front ++ [last]) ↔ ok glob last = true := by
  rw [splits_many]
  constructor
  · rintro ⟨rest, ⟨before, hrest⟩, h⟩
    obtain ⟨s, rfl, hs⟩ := (splits_name hg).mp h
    obtain ⟨-, heq⟩ := List.append_inj' hrest rfl
    obtain rfl : s = last := by simpa using heq
    exact hs
  · intro h
    exact ⟨[last], List.suffix_append front [last], (splits_name hg).mpr ⟨last, rfl, h⟩⟩

end Names

section OneName

variable {glob : List Char}

theorem exists_segments (path : List Char) :
    ∃ front, splitOn '/' (Path.normalizeChars path) = front ++ [Path.lastSegment path] := by
  obtain ⟨front, last, h⟩ :=
    (List.eq_nil_or_concat (splitOn '/' (Path.normalizeChars path))).resolve_left (splitOn_ne_nil _ _)
  have hlast := getLastD_splitOn '/' (Path.normalizeChars path)
  rw [h, List.concat_eq_append] at hlast
  refine ⟨front, ?_⟩
  rw [h, List.concat_eq_append, Path.lastSegment, ← hlast]
  simp

theorem prepare_name (hslash : '/' ∉ glob) (hback : '\\' ∉ glob) : prepare glob = glob := by
  refine prepare_eq_self hback ?_ ?_ ?_
  · rintro ⟨rest, rfl⟩
    simp at hslash
  · exact fun h => hslash (List.mem_of_mem_head? h)
  · exact fun h => hslash (List.mem_of_mem_getLast? h)

/-- A glob that is one name is compared with the last segment of a path. -/
theorem matchesChars_name (path : List Char) (hne : glob ≠ []) (hslash : '/' ∉ glob)
    (hback : '\\' ∉ glob) : matchesChars path glob = matchSegment glob (Path.lastSegment path) := by
  obtain ⟨front, hsegments⟩ := exists_segments path
  have hcontains : glob.contains '/' = false := by simpa using hslash
  unfold matchesChars
  dsimp only
  rw [prepare_name hslash hback, hsegments, hcontains]
  simp only [hne, List.isEmpty_iff, if_false, Bool.false_eq_true, List.getLastD_concat]
  by_cases hg : glob = manySegments
  · rw [hg, matchSegment_manySegments, Bool.true_or]
  · -- a path of one segment is that segment, so the second test adds nothing
    rw [Bool.or_eq_left_iff_imp, matchSegments_iff, splits_name hg]
    rintro ⟨s, hs, hok⟩
    obtain ⟨-, heq⟩ := List.append_inj' (show _ = [] ++ [s] from hs) rfl
    obtain rfl : Path.lastSegment path = s := by simpa using heq
    exact hok

/-- A name stands for the same below `**`. -/
theorem matchesChars_anywhere (path : List Char) (hne : glob ≠ []) (hslash : '/' ∉ glob)
    (hback : '\\' ∉ glob) :
    matchesChars path ('*' :: '*' :: '/' :: glob) = matchSegment glob (Path.lastSegment path) := by
  obtain ⟨front, hsegments⟩ := exists_segments path
  have hprepare : prepare ('*' :: '*' :: '/' :: glob) = '*' :: '*' :: '/' :: glob := by
    refine prepare_eq_self (by simpa using hback) (by simp) (by simp) fun hlast => ?_
    have happend : (['*', '*', '/'] ++ glob).getLast? = some '/' := hlast
    rw [List.getLast?_append, List.getLast?_eq_some_getLast hne] at happend
    have hend : glob.getLast hne = '/' := Option.some.inj happend
    exact hslash (hend ▸ List.getLast_mem hne)
  have hsplit : splitOn '/' ('*' :: '*' :: '/' :: glob) = [manySegments, glob] := by
    rw [← splitOn_of_notMem hslash]
    exact splitOn_append (s := manySegments) (by decide) glob
  have hmatch : matchesChars path ('*' :: '*' :: '/' :: glob) =
      matchSegments matchSegment (front ++ [Path.lastSegment path]) [manySegments, glob] := by
    unfold matchesChars
    dsimp only
    rw [hprepare, hsegments, hsplit]
    simp
  rw [hmatch, Bool.eq_iff_iff, matchSegments_iff]
  by_cases hg : glob = manySegments
  · rw [hg, matchSegment_manySegments, eq_self, iff_true, splits_many_many, splits_many]
    exact ⟨[], List.nil_suffix, splits_nil.mpr rfl⟩
  · exact splits_many_name hg front _

end OneName

/-- **Which spellings of a glob match the same paths.**  Path and glob count only in their normal form; a
name without slashes is compared with the last segment, as it is behind `**/`; a slash at the start adds
nothing; and slashes at the end, however many, stand for everything below. -/
theorem isMatch_spellings (path glob : String) :
    (isMatch path glob = isMatch (Path.normalize path) (Path.normalize glob) ∧
      Path.normalize (Path.normalize path) = Path.normalize path ∧
      Path.normalize (Path.normalize glob) = Path.normalize glob) ∧
    (glob ≠ "" → '/' ∉ glob.toList → '\\' ∉ glob.toList →
      isMatch path glob = matchSegment glob.toList (Path.lastSegment path.toList) ∧
      isMatch path ("**/" ++ glob) = matchSegment glob.toList (Path.lastSegment path.toList)) ∧
    (¬ "./".toList <+: glob.toList → ¬ ".\\".toList <+: glob.toList →
      isMatch path ("/" ++ glob) = isMatch path glob) ∧
    ((∃ c ∈ glob.toList, c ≠ '.' ∧ c ≠ '/' ∧ c ≠ '\\') →
      glob.toList.getLast? ≠ some '/' → glob.toList.getLast? ≠ some '\\' →
      isMatch path (glob ++ "/") = isMatch path (glob ++ "/**") ∧
      ∀ slashes : String, (∀ c ∈ slashes.toList, c = '/' ∨ c = '\\') →
        isMatch path (glob ++ "/" ++ slashes) = isMatch path (glob ++ "/")) := by
  refine ⟨⟨?_, Path.normalize_normalize path, Path.normalize_normalize glob⟩, ?_, ?_, ?_⟩
  · rw [isMatch_normalize]
    refine matchesChars_congr ?_
    rw [Path.normalize, String.toList_ofList, prepare_normalizeChars]
  · intro hne hslash hback
    have hchars : glob.toList ≠ [] := by simpa using hne
    refine ⟨matchesChars_name path.toList hchars hslash hback, ?_⟩
    rw [isMatch, String.toList_append]
    exact matchesChars_anywhere path.toList hchars hslash hback
  · intro hdot hback
    rw [isMatch, String.toList_append]
    refine matchesChars_congr (prepare_congr ?_)
    exact body_slash hdot hback
  · intro hname hslash hback
    have hbelow : ∀ slashes : List Char, slashes ≠ [] → (∀ c ∈ slashes, c = '/' ∨ c = '\\') →
        prepare (glob.toList ++ slashes) = body glob.toList ++ ['/', '*', '*'] :=
      fun slashes => prepare_directory hname hslash hback
    have hone := hbelow ['/'] (by simp) (by simp)
    constructor
    · refine matchesChars_congr ?_
      rw [String.toList_append, String.toList_append]
      exact hone.trans (prepare_below hname).symm
    · intro slashes hslashes
      refine matchesChars_congr ?_
      rw [String.toList_append, String.toList_append, List.append_assoc]
      exact (hbelow _ (by simp) (by simpa using hslashes)).trans hone.symm

-- behind a slash `./` is a segment of its own, and dots alone leave no glob to put a slash behind
example : isMatch "a" "./a" = true ∧ isMatch "a" "/./a" = false := by decide

example : isMatch "a" "./" = false ∧ isMatch "a" "./**" = true := by decide

end Glob

end PatternLint
