import PatternLint.Proofs.Registry

/-!
# What loading binds

Loading goes through what is provided from first to last.  A name that was bound before keeps its class; a free
name gets the first class provided for it that implements the base, however many of the earlier ones
fail to load or do not fit (`FirstProvided`, `get_load`).  So afterwards a name is free only if nothing that is
provided for it fits, and loading the same once more binds nothing (`load_of_settled`).
-/

namespace PatternLint

namespace Registry

variable {α : Type} {r : Registry α} {group : String} {provided : List (Provided α)}

/-! ### The first class that fits -/

/-- `c` is the class of the first of the implementations of that name that loads and fits. -/
def FirstProvided (r : Registry α) (provided : List (Provided α)) (name : String) (c : α) : Prop :=
  ∃ front p back, provided = front ++ p :: back ∧ p.name = name ∧ r.Provides p c ∧
    ∀ q ∈ front, q.name = name → ∀ k, ¬ r.Provides q k

theorem Provides.unique {p : Provided α} {c c' : α} (h : r.Provides p c) (h' : r.Provides p c') :
    c = c' := by
  obtain ⟨offer, hoffer, hc, -⟩ := h
  obtain ⟨offer', hoffer', hc', -⟩ := h'
  obtain rfl := Option.some.inj (hoffer.symm.trans hoffer')
  exact Option.some.inj (hc.symm.trans hc')

theorem not_firstProvided_nil (name : String) (c : α) : ¬ r.FirstProvided [] name c := by
  rintro ⟨front, p, back, heq, -⟩
  simp at heq

theorem firstProvided_cons {p : Provided α} {name : String} {c : α} :
    r.FirstProvided (p :: provided) name c ↔
      (p.name = name ∧ r.Provides p c) ∨
        ((p.name = name → ∀ k, ¬ r.Provides p k) ∧ r.FirstProvided provided name c) := by
  constructor
  · rintro ⟨front, q, back, heq, hname, hq, hfront⟩
    cases front with
    | nil =>
      obtain ⟨rfl, rfl⟩ := List.cons.inj heq
      exact Or.inl ⟨hname, hq⟩
    | cons p' front =>
      obtain ⟨rfl, rfl⟩ := List.cons.inj heq
      exact Or.inr ⟨hfront _ List.mem_cons_self, front, q, back, rfl, hname, hq,
        fun x hx => hfront x (List.mem_cons_of_mem _ hx)⟩
  · rintro (⟨hname, hp⟩ | ⟨hp, front, q, back, rfl, hname, hq, hfront⟩)
    · exact ⟨[], p, provided, rfl, hname, hp, by simp⟩
    · refine ⟨p :: front, q, back, rfl, hname, hq, fun x hx => ?_⟩
      rcases List.mem_cons.mp hx with rfl | hx
      · exact hp
      · exact hfront x hx

/-- Some class comes first as soon as one fits. -/
theorem exists_firstProvided {name : String} :
    (∃ c, r.FirstProvided provided name c) ↔
      ∃ p ∈ provided, p.name = name ∧ ∃ c, r.Provides p c := by
  induction provided with
  | nil => simp [not_firstProvided_nil]
  | cons p provided ih =>
    simp only [firstProvided_cons, List.exists_mem_cons_iff, ← ih]
    constructor
    · rintro ⟨c, ⟨hname, hc⟩ | ⟨-, hc⟩⟩
      · exact Or.inl ⟨hname, c, hc⟩
      · exact Or.inr ⟨c, hc⟩
    · rintro (⟨hname, c, hc⟩ | ⟨c, hc⟩)
      · exact ⟨c, Or.inl ⟨hname, hc⟩⟩
      · by_cases hp : p.name = name → ∀ k, ¬ r.Provides p k
        · exact ⟨c, Or.inr ⟨hp, hc⟩⟩
        · obtain ⟨hname, hk⟩ := Classical.not_imp.mp hp
          obtain ⟨k, hk⟩ := not_forall_not.mp hk
          exact ⟨k, Or.inl ⟨hname, hk⟩⟩

/-! ### Look-ups after loading -/

theorem isBound_iff_get {name : String} : r.IsBound name ↔ ∃ c, r.get name = .ok c := by
  simp only [get_eq_ok_iff_lookup, ← Option.isSome_iff_exists]
  exact contains_iff.symm

/-- A new binding of a free name is found under that name, and all others as before. -/
theorem get_bind {name n : String} {c k : α} (hfree : ¬ r.IsBound name) :
    ({ r with bound := r.bound ++ [(name, c)] } : Registry α).get n = .ok k ↔
      r.get n = .ok k ∨ name = n ∧ c = k := by
  have hnone : r.bound.lookup name = none :=
    Option.not_isSome_iff_eq_none.mp fun h => hfree (contains_iff.mp h)
  simp only [get_eq_ok_iff_lookup, List.lookup_append, Option.or_eq_some_iff]
  by_cases hn : name = n
  · subst hn
    simp [hnone]
  · have hbeq : (n == name) = false := beq_eq_false_iff_ne.mpr (Ne.symm hn)
    simp [List.lookup_cons, hbeq, hn]

/-- What loading one implementation does to the look-up of a name. -/
theorem get_loadOne {s : Registry α} {flag : Bool} {p : Provided α} {n : String} {c : α}
    (h : (r.loadOne group p).value = (s, .ok flag)) :
    s.get n = .ok c ↔ r.get n = .ok c ∨ ¬ r.IsBound n ∧ p.name = n ∧ r.Provides p c := by
  rcases r.loadOne_cases group p with ⟨hbound, h'⟩ | ⟨-, hfits, h'⟩ | ⟨k, hfree, hk, h'⟩
  · obtain ⟨rfl, -⟩ := Prod.mk.inj (h.symm.trans h')
    refine ⟨Or.inl, ?_⟩
    rintro (h | ⟨hfree, rfl, -⟩)
    · exact h
    · exact absurd hbound hfree
  · obtain ⟨rfl, -⟩ := Prod.mk.inj (h.symm.trans h')
    refine ⟨Or.inl, ?_⟩
    rintro (h | ⟨-, -, hc⟩)
    · exact h
    · exact absurd hc (hfits c)
  · obtain ⟨rfl, -⟩ := Prod.mk.inj (h.symm.trans h')
    rw [get_bind hfree]
    refine or_congr_right ⟨?_, ?_⟩
    · rintro ⟨rfl, rfl⟩
      exact ⟨hfree, rfl, hk⟩
    · rintro ⟨-, rfl, hc⟩
      exact ⟨rfl, hk.unique hc⟩

/-- Whether a class fits does not depend on what is bound. -/
theorem Grows.provides {s : Registry α} (h : r.Grows s) : s.Provides = r.Provides := by
  funext p c
  rw [Provides, Provides, h.settings.2.2]

theorem Grows.firstProvided {s : Registry α} (h : r.Grows s) : s.FirstProvided = r.FirstProvided := by
  funext provided name c
  rw [FirstProvided, FirstProvided, h.provides]

/-- **Loading binds a free name to the first class that fits**, and leaves the others as they are. -/
theorem get_load {n : String} {c : α} :
    (r.load group provided).value.1.get n = .ok c ↔
      r.get n = .ok c ∨ ¬ r.IsBound n ∧ r.FirstProvided provided n c := by
  induction provided generalizing r with
  | nil => simp [load, not_firstProvided_nil]
  | cons p provided ih =>
    obtain ⟨s, flag, hone, hgrows⟩ := r.loadOne_grows group p
    have hbound : s.IsBound n ↔ r.IsBound n ∨ p.name = n ∧ ∃ k, r.Provides p k := by
      simp only [isBound_iff_get, get_loadOne hone, exists_or]
      by_cases hn : ∃ k, r.get n = .ok k
      · simp [hn]
      · simp [hn]
    rw [load_cons hone, ih, get_loadOne hone, hbound, hgrows.firstProvided, firstProvided_cons]
    by_cases hn : r.IsBound n
    · simp [hn]
    · simp only [hn, not_false_eq_true, true_and, false_or, not_and, not_exists]
      tauto

theorem isBound_load {n : String} :
    (r.load group provided).value.1.IsBound n ↔
      r.IsBound n ∨ ∃ p ∈ provided, p.name = n ∧ ∃ c, r.Provides p c := by
  rw [isBound_iff_get, ← exists_firstProvided]
  simp only [get_load, exists_or, ← isBound_iff_get]
  by_cases hn : r.IsBound n
  · simp [hn]
  · simp [hn]

/-! ### Loading in two parts, and once more -/

theorem load_append {s u : Registry α} {front back : List (Provided α)} {flags flags' : List Bool}
    (hfront : (r.load group front).value = (s, .ok flags))
    (hback : (s.load group back).value = (u, .ok flags')) :
    (r.load group (front ++ back)).value = (u, .ok (flags ++ flags')) := by
  induction front generalizing r flags with
  | nil =>
    obtain ⟨rfl, hflags⟩ := Prod.mk.inj hfront
    obtain rfl := Except.ok.inj hflags
    exact hback
  | cons p front ih =>
    obtain ⟨t, flag, hone, -⟩ := r.loadOne_grows group p
    obtain ⟨t', later, hlater, -⟩ := t.load_grows group front
    rw [load_cons hone, hlater] at hfront
    obtain ⟨rfl, hflags⟩ := Prod.mk.inj hfront
    obtain rfl := Except.ok.inj hflags
    rw [List.cons_append, load_cons hone, ih hlater]
    rfl

/-- An implementation is loaded exactly if its name is free when its turn comes. -/
theorem flag_load {flags : List Bool} {front back : List (Provided α)} {p : Provided α}
    (h : (r.load group (front ++ p :: back)).value.2 = .ok flags) :
    flags[front.length]? = some true ↔ ¬ (r.load group front).value.1.IsBound p.name := by
  obtain ⟨s, flags₁, hfront, hlength, -⟩ := r.load_grows group front
  obtain ⟨t, flag, hone, -⟩ := s.loadOne_grows group p
  obtain ⟨u, flags₂, hback, -⟩ := t.load_grows group back
  have hrest : (s.load group (p :: back)).value = (u, .ok (flag :: flags₂)) := by
    rw [load_cons hone, hback]
    rfl
  rw [load_append hfront hrest] at h
  obtain rfl := Except.ok.inj h
  rw [← hlength, List.getElem?_append_right le_rfl, Nat.sub_self, List.getElem?_cons_zero,
    Option.some.injEq, hfront]
  rcases s.loadOne_cases group p with ⟨hbound, h'⟩ | ⟨hfree, -, h'⟩ | ⟨c, hfree, -, h'⟩
  · obtain ⟨-, hflag⟩ := Prod.mk.inj (hone.symm.trans h')
    obtain rfl := Except.ok.inj hflag
    simp [hbound]
  · obtain ⟨-, hflag⟩ := Prod.mk.inj (hone.symm.trans h')
    obtain rfl := Except.ok.inj hflag
    simp [hfree]
  · obtain ⟨-, hflag⟩ := Prod.mk.inj (hone.symm.trans h')
    obtain rfl := Except.ok.inj hflag
    simp [hfree]

/-- Where every name is bound or has nothing provided for it that fits, loading changes nothing. -/
theorem load_of_settled (h : ∀ p ∈ provided, r.IsBound p.name ∨ ∀ c, ¬ r.Provides p c) :
    (r.load group provided).value.1 = r := by
  induction provided with
  | nil => rfl
  | cons p provided ih =>
    have hrest := ih fun q hq => h q (List.mem_cons_of_mem _ hq)
    have hfirst := h p List.mem_cons_self
    rcases r.loadOne_cases group p with ⟨-, hone⟩ | ⟨-, -, hone⟩ | ⟨c, hfree, hc, -⟩
    · rw [load_cons hone, hrest]
    · rw [load_cons hone, hrest]
    · rcases hfirst with hbound | hnone
      · exact absurd hbound hfree
      · exact absurd hc (hnone c)

/-- **Loading binds free names to the first class that fits.**  It passes no error on, whatever is provided;
bound names keep their class, and a free name is bound to the class of the first implementation provided for
it that loads and implements the base, or stays free if there is none.  An implementation is loaded
exactly if its name is free when its turn comes, and loading everything once more changes nothing. -/
theorem load_binds_first (r : Registry α) (group : String) (provided : List (Provided α)) :
    ∃ (s : Registry α) (flags : List Bool), (r.load group provided).value = (s, .ok flags) ∧
      (∀ n, r.IsBound n → s.get n = r.get n) ∧
      (∀ n, ¬ r.IsBound n → ∀ c, s.get n = .ok c ↔ r.FirstProvided provided n c) ∧
      (∀ n, ¬ r.IsBound n →
        (s.IsBound n ↔ ∃ p ∈ provided, p.name = n ∧ ∃ c, r.Provides p c)) ∧
      (s.name = r.name ∧ s.base = r.base ∧ s.implements = r.implements) ∧
      flags.length = provided.length ∧
      (∀ front p back, provided = front ++ p :: back →
        (flags[front.length]? = some true ↔ ¬ (r.load group front).value.1.IsBound p.name)) ∧
      ∀ group', (s.load group' provided).value.1 = s := by
  obtain ⟨s, flags, hload, hlength, hgrows⟩ := r.load_grows group provided
  have hs : (r.load group provided).value.1 = s := by rw [hload]
  refine ⟨s, flags, hload, fun n hn => ?_, fun n hn c => ?_, fun n hn => ?_, hgrows.settings, hlength,
    ?_, fun group' => ?_⟩
  · obtain ⟨c, hc⟩ := isBound_iff_get.mp hn
    rw [hc, ← hs, get_load]
    exact Or.inl hc
  · have hfree : r.get n ≠ .ok c := fun h => hn (isBound_iff_get.mpr ⟨c, h⟩)
    rw [← hs, get_load]
    simp [hfree, hn]
  · rw [← hs, isBound_load]
    simp [hn]
  · rintro front p back rfl
    exact flag_load (by rw [hload])
  · refine load_of_settled fun p hp => ?_
    rw [hgrows.provides, ← hs, isBound_load]
    by_cases hc : ∃ c, r.Provides p c
    · exact Or.inl (Or.inr ⟨p, hp, rfl, hc⟩)
    · exact Or.inr (not_exists.mp hc)

-- the first "json" fails to load, the second is no class, the third is bound and the last is not loaded
example :
    let json (offer? : Option (Offer String)) : Provided String := ⟨"json", offer?⟩
    let done := (empty "reporter" "Reporter" (["Json", "Text"].contains ·) id).load "reporters"
      [json none, json (some ⟨none, "'Json'"⟩), json (some ⟨some "Json", "Json"⟩),
        json (some ⟨some "Text", "Text"⟩)]
    done.value.1.bound = [("json", "Json")] ∧ done.value.2 = .ok [true, true, true, false] := by
  decide

end Registry

end PatternLint
