import Mathlib.Data.List.Sort
import Mathlib.Data.String.Basic
import Mathlib.Logic.Relation
import Mathlib.Tactic
import PatternLint.Registry

/-!
# What calls can do to a registry

All that ever happens to a registry is that a free name is bound to a class that implements the base
(`Binds`); registering does it at most once, loading once for each provided implementation at most
(`call_grows`).  Hence every bound class implements the base, no name is bound twice and no binding is ever
lost, whatever calls are made (`Sound`, `Grows.subset`).  `Refused` says which calls fail and how, in terms
of the bindings alone.
-/

namespace PatternLint

namespace Registry

variable {α : Type}

/-! ### Bindings -/

/-- A name is bound to some class. -/
def IsBound (r : Registry α) (name : String) : Prop := ∃ c, (name, c) ∈ r.bound

/-- What is offered is a class that implements the base. -/
def Fits (r : Registry α) (offer : Offer α) : Prop :=
  ∃ c, offer.cls? = some c ∧ r.implements c = true

/-- A free name gets bound to a class that implements the base, and nothing else changes. -/
def Binds (r s : Registry α) : Prop :=
  ∃ name c, ¬ r.IsBound name ∧ r.implements c = true ∧ s = { r with bound := r.bound ++ [(name, c)] }

/-- One binding after the other is added. -/
def Grows : Registry α → Registry α → Prop := Relation.ReflTransGen Binds

/-- Every bound class implements the base, and no name is bound twice. -/
structure Sound (r : Registry α) : Prop where
  implements : ∀ name c, (name, c) ∈ r.bound → r.implements c = true
  nodup : (r.bound.map (·.1)).Nodup

theorem contains_iff {r : Registry α} {name : String} :
    r.contains name = true ↔ r.IsBound name := by
  unfold contains IsBound
  rw [List.lookup_isSome_iff]
  simp only [beq_iff_eq, Prod.exists]
  exact ⟨fun ⟨_, c, hmem, heq⟩ => ⟨c, heq ▸ hmem⟩, fun ⟨c, hmem⟩ => ⟨name, c, hmem, rfl⟩⟩

theorem get_eq_ok_iff_lookup {r : Registry α} {name : String} {c : α} :
    r.get name = .ok c ↔ r.bound.lookup name = some c := by
  unfold get
  cases r.bound.lookup name <;> simp

theorem get_eq_ok_iff {r : Registry α} (h : (r.bound.map (·.1)).Nodup) {name : String} {c : α} :
    r.get name = .ok c ↔ (name, c) ∈ r.bound := by
  rw [get_eq_ok_iff_lookup, List.lookup_eq_some_iff]
  constructor
  · rintro ⟨front, back, heq, -⟩
    rw [heq]
    exact List.mem_append_right _ List.mem_cons_self
  · intro hmem
    obtain ⟨front, back, heq⟩ := List.append_of_mem hmem
    refine ⟨front, back, heq, fun p hp => ?_⟩
    -- an earlier binding of the name would be a second one
    rw [heq, List.map_append, List.nodup_append] at h
    simpa using (h.2.2 p.1 (List.mem_map_of_mem hp) name (by simp)).symm

theorem get_eq_error_iff {r : Registry α} {name : String} {e : RegistryError} :
    r.get name = .error e ↔ ¬ r.IsBound name ∧ e = .notFound name r.name r.names := by
  rw [← contains_iff]
  unfold get contains
  cases r.bound.lookup name with
  | none => simp [eq_comm]
  | some c => simp

/-- The names are those that are bound, each once and in order. -/
theorem names_spec {r : Registry α} (h : (r.bound.map (·.1)).Nodup) :
    r.names.Pairwise (· < ·) ∧ (∀ name, name ∈ r.names ↔ r.IsBound name) ∧
      r.names.length = r.size := by
  have hperm : r.names.Perm (r.bound.map (·.1)) := List.mergeSort_perm _ _
  refine ⟨?_, fun name => ?_, ?_⟩
  · have hsorted : r.names.Pairwise (· ≤ ·) := List.pairwise_mergeSort' _ _
    have hdistinct : r.names.Pairwise (· ≠ ·) := hperm.nodup_iff.mpr h
    exact (hsorted.and hdistinct).imp fun ⟨hle, hne⟩ => lt_of_le_of_ne hle hne
  · rw [hperm.mem_iff, List.mem_map]
    exact ⟨fun ⟨b, hmem, heq⟩ => ⟨b.2, heq ▸ hmem⟩, fun ⟨c, hmem⟩ => ⟨(name, c), hmem, rfl⟩⟩
  · rw [hperm.length_eq, List.length_map]
    rfl

/-! ### Registering -/

/-- Why a name cannot be bound to an offer: it is taken; otherwise, the offer does not fit. -/
def TurnedAway (r : Registry α) (name : String) (offer : Offer α) (e : RegistryError) : Prop :=
  (r.IsBound name ∧ e = .taken name r.name) ∨
    (¬ r.IsBound name ∧ ¬ r.Fits offer ∧ e = .wrongKind offer.shown r.name name r.base)

/-- Registering fails because the name is taken, or because the offer does not fit, and then changes nothing; or
it binds the name. -/
theorem register_cases (r : Registry α) (name : String) (offer : Offer α) :
    (r.IsBound name ∧ (r.register name offer).value = (r, .error (.taken name r.name))) ∨
      (¬ r.IsBound name ∧ ¬ r.Fits offer ∧
        (r.register name offer).value = (r, .error (.wrongKind offer.shown r.name name r.base))) ∨
      ∃ c, ¬ r.IsBound name ∧ offer.cls? = some c ∧ r.implements c = true ∧
        (r.register name offer).value = ({ r with bound := r.bound ++ [(name, c)] }, .ok ()) := by
  unfold register
  by_cases hname : r.contains name = true
  · rw [if_pos hname]
    exact Or.inl ⟨contains_iff.mp hname, rfl⟩
  · rw [if_neg hname]
    have hfree : ¬ r.IsBound name := fun h => hname (contains_iff.mpr h)
    cases hoffer : offer.cls?.filter r.implements with
    | none =>
      refine Or.inr (Or.inl ⟨hfree, ?_, rfl⟩)
      rintro ⟨c, hc, himp⟩
      simp [hc, himp] at hoffer
    | some c =>
      obtain ⟨hc, himp⟩ := Option.filter_eq_some_iff.mp hoffer
      exact Or.inr (Or.inr ⟨c, hfree, hc, himp, rfl⟩)

theorem register_eq_error_iff {r : Registry α} {name : String} {offer : Offer α} {e : RegistryError} :
    (r.register name offer).value.2 = .error e ↔ r.TurnedAway name offer e := by
  unfold TurnedAway
  rcases r.register_cases name offer with ⟨hname, h⟩ | ⟨hname, hoffer, h⟩ | ⟨c, hname, hc, himp, h⟩
  · simp [h, hname, eq_comm]
  · simp [h, hname, hoffer, eq_comm]
  · have hfits : r.Fits offer := ⟨c, hc, himp⟩
    simp [h, hname, hfits]

/-- What registering successfully does. -/
theorem register_eq_ok {r s : Registry α} {name : String} {offer : Offer α}
    (h : (r.register name offer).value = (s, .ok ())) :
    ∃ c, ¬ r.IsBound name ∧ offer.cls? = some c ∧ r.implements c = true ∧
      s = { r with bound := r.bound ++ [(name, c)] } := by
  rcases r.register_cases name offer with ⟨-, h'⟩ | ⟨-, -, h'⟩ | ⟨c, hname, hc, himp, h'⟩
  · simp [h'] at h
  · simp [h'] at h
  · rw [h'] at h
    exact ⟨c, hname, hc, himp, (Prod.mk.inj h).1.symm⟩

theorem grows_of_register {r s : Registry α} {name : String} {offer : Offer α}
    (h : (r.register name offer).value = (s, .ok ())) : r.Grows s := by
  obtain ⟨c, hname, -, himp, hs⟩ := register_eq_ok h
  exact .single ⟨name, c, hname, himp, hs⟩

/-! ### Calls -/

/-- What is provided loads as a class that implements the base. -/
def Provides (r : Registry α) (p : Provided α) (c : α) : Prop :=
  ∃ offer, p.offer? = some offer ∧ offer.cls? = some c ∧ r.implements c = true

/-- What loading one implementation does: its name is bound and it is not loaded, or it is loaded and does
not fit, or it is loaded and bound.  A name that is free is still free once it is loaded, so no error is
passed on. -/
theorem loadOne_cases (r : Registry α) (group : String) (p : Provided α) :
    (r.IsBound p.name ∧ (r.loadOne group p).value = (r, .ok false)) ∨
      (¬ r.IsBound p.name ∧ (∀ c, ¬ r.Provides p c) ∧
        (r.loadOne group p).value = (r, .ok true)) ∨
      ∃ c, ¬ r.IsBound p.name ∧ r.Provides p c ∧
        (r.loadOne group p).value = ({ r with bound := r.bound ++ [(p.name, c)] }, .ok true) := by
  unfold loadOne
  by_cases hname : r.contains p.name = true
  · rw [if_pos hname]
    exact Or.inl ⟨contains_iff.mp hname, rfl⟩
  · rw [if_neg hname]
    have hfree : ¬ r.IsBound p.name := fun h => hname (contains_iff.mpr h)
    cases hoffer : p.offer? with
    | none => exact Or.inr (Or.inl ⟨hfree, by simp [Provides, hoffer], rfl⟩)
    | some offer =>
      dsimp only
      rcases r.register_cases p.name offer with ⟨hbound, -⟩ | ⟨-, hfits, h⟩ | ⟨c, -, hc, himp, h⟩
      · exact absurd hbound hfree
      · refine Or.inr (Or.inl ⟨hfree, ?_, by rw [h]⟩)
        rintro c ⟨_, heq, hc, himp⟩
        obtain rfl := Option.some.inj (hoffer.symm.trans heq)
        exact hfits ⟨c, hc, himp⟩
      · exact Or.inr (Or.inr ⟨c, hfree, ⟨offer, hoffer, hc, himp⟩, by rw [h]⟩)

theorem loadOne_grows (r : Registry α) (group : String) (p : Provided α) :
    ∃ s flag, (r.loadOne group p).value = (s, .ok flag) ∧ r.Grows s := by
  rcases r.loadOne_cases group p with ⟨-, h⟩ | ⟨-, -, h⟩ | ⟨c, hfree, ⟨_, -, -, himp⟩, h⟩
  · exact ⟨r, false, h, .refl⟩
  · exact ⟨r, true, h, .refl⟩
  · exact ⟨_, true, h, .single ⟨p.name, c, hfree, himp, rfl⟩⟩

/-- One step: what loading the first implementation adds to what the later ones give. -/
theorem load_cons {r s : Registry α} {group : String} {p : Provided α} {flag : Bool}
    (h : (r.loadOne group p).value = (s, .ok flag)) (provided : List (Provided α)) :
    (r.load group (p :: provided)).value =
      ((s.load group provided).value.1, (s.load group provided).value.2.map (flag :: ·)) := by
  rw [load]
  dsimp only
  rw [h]

/-- Loading passes no error on; it tells of each implementation whether it was loaded. -/
theorem load_grows (r : Registry α) (group : String) (provided : List (Provided α)) :
    ∃ s flags, (r.load group provided).value = (s, .ok flags) ∧
      flags.length = provided.length ∧ r.Grows s := by
  induction provided generalizing r with
  | nil => exact ⟨r, [], rfl, rfl, .refl⟩
  | cons p provided ih =>
    obtain ⟨t, flag, hone, hgrows⟩ := r.loadOne_grows group p
    obtain ⟨s, flags, hlater, hlength, hgrows'⟩ := ih t
    refine ⟨s, flag :: flags, ?_, by simp [hlength], hgrows.trans hgrows'⟩
    rw [load_cons hone, hlater]
    rfl

/-- What a call puts forward for a name. -/
def Call.putsForward? : Call α → Option (String × Offer α)
  | .register name offer => some (name, offer)
  | .decorate name offer => some (name, offer)
  | _ => none

/-- Why a call fails; asking whether a name is bound and loading never do. -/
def Refused (r : Registry α) (e : RegistryError) : Call α → Prop
  | .register name offer => r.TurnedAway name offer e
  | .decorate name offer => r.TurnedAway name offer e
  | .get name => ¬ r.IsBound name ∧ e = .notFound name r.name r.names
  | .contains _ => False
  | .load _ _ => False

/-- The outcome of a call that puts something forward is that of registering it. -/
theorem call_of_putsForward (r : Registry α) {c : Call α} {name : String} {offer : Offer α}
    (hc : c.putsForward? = some (name, offer)) :
    ∃ reply, (r.call c).value =
      ((r.register name offer).value.1, (r.register name offer).value.2.map fun _ => reply) := by
  cases c with
  | register n o =>
    obtain ⟨rfl, rfl⟩ := Prod.mk.inj (Option.some.inj hc)
    exact ⟨.registered, rfl⟩
  | decorate n o =>
    obtain ⟨rfl, rfl⟩ := Prod.mk.inj (Option.some.inj hc)
    refine ⟨.decorated o, ?_⟩
    simp only [call, decorate]
    cases (r.register n o).value.2 with
    | error e => rfl
    | ok _ => rfl
  | get n => simp [Call.putsForward?] at hc
  | contains n => simp [Call.putsForward?] at hc
  | load group provided => simp [Call.putsForward?] at hc

theorem refused_iff_of_putsForward {r : Registry α} {c : Call α} {name : String} {offer : Offer α}
    (hc : c.putsForward? = some (name, offer)) (e : RegistryError) :
    r.Refused e c ↔ (r.register name offer).value.2 = .error e := by
  rw [register_eq_error_iff]
  cases c with
  | register n o | decorate n o =>
    obtain ⟨rfl, rfl⟩ := Prod.mk.inj (Option.some.inj hc)
    exact Iff.rfl
  | get n | contains n | load group provided => simp [Call.putsForward?] at hc

/-- What a call does: it is refused and changes nothing, or it is not, adds bindings and replies. -/
theorem call_cases (r : Registry α) (c : Call α) :
    (∃ e, r.Refused e c ∧ (r.call c).value = (r, .error e)) ∨
      ∃ s reply, (∀ e, ¬ r.Refused e c) ∧ (r.call c).value = (s, .ok reply) ∧ r.Grows s ∧
        ∀ name offer, c.putsForward? = some (name, offer) →
          (r.register name offer).value = (s, .ok ()) := by
  cases hput : c.putsForward? with
  | some put =>
    obtain ⟨name, offer⟩ := put
    have hrefused := refused_iff_of_putsForward (r := r) hput
    obtain ⟨reply, hcall⟩ := r.call_of_putsForward hput
    have hfailed {e : RegistryError} (h : (r.register name offer).value = (r, .error e)) :
        ∃ e, r.Refused e c ∧ (r.call c).value = (r, .error e) :=
      ⟨e, (hrefused e).mpr (by rw [h]), by rw [hcall, h]; rfl⟩
    rcases r.register_cases name offer with ⟨-, h⟩ | ⟨-, -, h⟩ | ⟨k, -, -, -, h⟩
    · exact Or.inl (hfailed h)
    · exact Or.inl (hfailed h)
    · refine Or.inr ⟨_, reply, fun e he => ?_, by rw [hcall, h]; rfl, grows_of_register h, fun n o hno => ?_⟩
      · have herror := (hrefused e).mp he
        simp [h] at herror
      · obtain ⟨rfl, rfl⟩ := Prod.mk.inj (Option.some.inj hno)
        exact h
  | none =>
    cases c with
    | register name offer | decorate name offer => simp [Call.putsForward?] at hput
    | get name =>
      cases h : r.get name with
      | error e => exact Or.inl ⟨e, get_eq_error_iff.mp h, by simp only [call, h, Except.map]⟩
      | ok k =>
        refine Or.inr ⟨r, .found k, fun e he => ?_, by simp only [call, h, Except.map], .refl, by simp⟩
        have herror := get_eq_error_iff.mpr he
        simp [h] at herror
    | contains name => exact Or.inr ⟨r, _, fun e => id, rfl, .refl, by simp⟩
    | load group provided =>
      obtain ⟨s, flags, h, -, hgrows⟩ := r.load_grows group provided
      exact Or.inr ⟨s, .loaded flags, fun e => id, by simp only [call, h, Except.map], hgrows, by simp⟩

theorem Refused.unique {r : Registry α} {c : Call α} {e e' : RegistryError} (h : r.Refused e c)
    (h' : r.Refused e' c) : e = e' := by
  cases c with
  | register name offer | decorate name offer =>
    exact Except.error.inj
      ((register_eq_error_iff.mpr h).symm.trans (register_eq_error_iff.mpr h'))
  | get name => exact h.2.trans h'.2.symm
  | contains name | load group provided => exact h.elim

theorem call_eq_error_iff {r : Registry α} {c : Call α} {e : RegistryError} :
    (r.call c).value.2 = .error e ↔ r.Refused e c := by
  rcases r.call_cases c with ⟨e', hrefused, hcall⟩ | ⟨s, reply, hfine, hcall, -⟩
  · rw [hcall]
    exact ⟨fun h => Except.error.inj h ▸ hrefused, fun h => congrArg _ (hrefused.unique h)⟩
  · rw [hcall]
    exact ⟨fun h => absurd h (by simp), fun h => absurd h (hfine e)⟩

theorem call_of_error {r : Registry α} {c : Call α} {e : RegistryError}
    (h : (r.call c).value.2 = .error e) : (r.call c).value.1 = r := by
  rcases r.call_cases c with ⟨e', -, hcall⟩ | ⟨s, reply, -, hcall, -⟩
  · rw [hcall]
  · simp [hcall] at h

theorem call_grows (r : Registry α) (c : Call α) : r.Grows (r.call c).value.1 := by
  rcases r.call_cases c with ⟨e, -, hcall⟩ | ⟨s, reply, -, hcall, hgrows, -⟩
  · rw [hcall]
    exact .refl
  · rw [hcall]
    exact hgrows

/-! ### Runs of calls -/

/-- The registry after some calls, one after the other. -/
def after (r : Registry α) (calls : List (Call α)) : Registry α :=
  calls.foldl (fun r c => (r.call c).value.1) r

theorem after_grows (r : Registry α) (calls : List (Call α)) : r.Grows (r.after calls) := by
  induction calls generalizing r with
  | nil => exact .refl
  | cons c calls ih => exact (r.call_grows c).trans (ih _)

theorem sound_empty (name base : String) (implements : α → Bool) (label : α → String) :
    (empty name base implements label).Sound :=
  ⟨fun _ _ h => absurd h List.not_mem_nil, List.nodup_nil⟩

/-- One more binding keeps a registry sound. -/
theorem Sound.binds {r s : Registry α} (h : r.Sound) (hs : r.Binds s) : s.Sound := by
  obtain ⟨name, c, hname, himp, rfl⟩ := hs
  refine ⟨fun n k hmem => ?_, ?_⟩
  · rcases List.mem_append.mp hmem with hold | hnew
    · exact h.implements n k hold
    · obtain ⟨rfl, rfl⟩ : n = name ∧ k = c := by simpa using hnew
      exact himp
  · rw [List.map_append, List.nodup_append]
    refine ⟨h.nodup, by simp, fun n hn m hm => ?_⟩
    obtain ⟨b, hb, rfl⟩ := List.mem_map.mp hn
    obtain rfl : m = name := by simpa using hm
    rintro rfl
    exact hname ⟨b.2, hb⟩

theorem Grows.sound {r s : Registry α} (hs : r.Grows s) (h : r.Sound) : s.Sound := by
  induction hs with
  | refl => exact h
  | tail _ hbinds ih => exact ih.binds hbinds

/-- What is bound stays bound. -/
theorem Grows.subset {r s : Registry α} (hs : r.Grows s) : r.bound ⊆ s.bound := by
  induction hs with
  | refl => exact List.Subset.refl _
  | tail _ hbinds ih =>
    obtain ⟨name, c, -, -, rfl⟩ := hbinds
    exact List.Subset.trans ih (List.subset_append_left _ _)

/-- Only bindings are added. -/
theorem Grows.settings {r s : Registry α} (hs : r.Grows s) :
    s.name = r.name ∧ s.base = r.base ∧ s.implements = r.implements := by
  induction hs with
  | refl => exact ⟨rfl, rfl, rfl⟩
  | tail _ hbinds ih =>
    obtain ⟨name, c, -, -, rfl⟩ := hbinds
    exact ih

/-- **Names are bound once and for all**, whatever calls are made of an empty registry.  Every bound class
implements the base and keeps its name through all later calls; a call fails exactly if its name is taken,
or free and the offer does not fit, or not bound, and then changes nothing; a call that puts an offer forward
and does not fail binds it.  The names are listed in order, each once, and can be looked up. -/
theorem bindings_permanent (name base : String) (implements : α → Bool) (label : α → String)
    (calls : List (Call α)) :
    let r := (empty name base implements label).after calls
    (r.name = name ∧ r.base = base ∧ r.implements = implements) ∧
    (∀ n c, (n, c) ∈ r.bound → implements c = true) ∧
    (∀ n c, (n, c) ∈ r.bound → ∀ later, (r.after later).get n = .ok c) ∧
    (∀ c e, ((r.call c).value.2 = .error e ↔ r.Refused e c) ∧
      ((r.call c).value.2 = .error e → (r.call c).value.1 = r)) ∧
    (∀ c n offer, c.putsForward? = some (n, offer) → (∀ e, ¬ r.Refused e c) →
      ∃ k, offer.cls? = some k ∧ (r.call c).value.1 = { r with bound := r.bound ++ [(n, k)] }) ∧
    (r.names.Pairwise (· < ·) ∧ (∀ n, n ∈ r.names ↔ r.IsBound n) ∧ r.names.length = r.size) ∧
    ∀ n, (r.contains n = true ↔ r.IsBound n) ∧ ((∃ c, r.get n = .ok c) ↔ r.contains n = true) := by
  intro r
  have hgrows : (empty name base implements label).Grows r := after_grows _ calls
  have hsound : r.Sound := hgrows.sound (sound_empty name base implements label)
  have hsettings : r.name = name ∧ r.base = base ∧ r.implements = implements := hgrows.settings
  refine ⟨hsettings, fun n c hmem => ?_, fun n c hmem later => ?_,
    fun c e => ⟨call_eq_error_iff, call_of_error⟩, fun c n offer hc hfine => ?_,
    names_spec hsound.nodup, fun n => ⟨contains_iff, ?_⟩⟩
  · rw [← hsettings.2.2]
    exact hsound.implements n c hmem
  · have hlater := r.after_grows later
    exact (get_eq_ok_iff (hlater.sound hsound).nodup).mpr (hlater.subset hmem)
  · rcases r.call_cases c with ⟨e, hrefused, -⟩ | ⟨s, reply, -, hcall, -, hput⟩
    · exact absurd hrefused (hfine e)
    · obtain ⟨k, -, hk, -, hs⟩ := register_eq_ok (hput n offer hc)
      exact ⟨k, hk, by rw [hcall, ← hs]⟩
  · simp only [contains_iff, get_eq_ok_iff hsound.nodup]
    rfl

/-- A registry of two classes that implement the base, with one of them bound. -/
def jsonRegistry : Registry String :=
  (empty "reporter" "Reporter" (["Json", "Text"].contains ·) id).after
    [.get "json", .register "json" ⟨none, "'Json'"⟩, .decorate "json" ⟨some "Json", "Json"⟩]

/-- The name stays bound to the first class that fits when others are put forward for it. -/
theorem jsonRegistry_keeps_binding :
    ("json", "Json") ∈ jsonRegistry.bound ∧
      (jsonRegistry.after [.register "json" ⟨some "Text", "Text"⟩,
        .load "reporters" [⟨"json", some ⟨some "Text", "Text"⟩⟩]]).get "json" = .ok "Json" := by
  have hbound : ("json", "Json") ∈ jsonRegistry.bound := by decide
  exact ⟨hbound, (bindings_permanent _ _ _ _ _).2.2.1 "json" "Json" hbound _⟩

end Registry

end PatternLint
