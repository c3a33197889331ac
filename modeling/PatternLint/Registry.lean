import PatternLint.Log
import PatternLint.Text.Quoted

/-!
# Registries

A registry binds names to the classes that implement one base.  A name is bound once and for all; a
class that does not implement the base, or a value that is no class, is turned away.  Implementations
that others provide are loaded by name: the first one that loads and implements the base gets the name.
-/

namespace PatternLint

open PatternLint.Text

/-- A value that is put forward for a name. -/
structure Offer (α : Type) where
  /-- The class that the value is; an instance, a text or nothing is no class. -/
  cls? : Option α
  /-- How messages show the value. -/
  shown : String

structure Registry (α : Type) where
  /-- What the registry is called in messages. -/
  name : String
  /-- The name of the base. -/
  base : String
  /-- Whether a class implements the base. -/
  implements : α → Bool
  /-- How a class is called in messages. -/
  label : α → String
  /-- The bindings, the oldest first. -/
  bound : List (String × α)

inductive RegistryError
  | taken (name registry : String)
  | wrongKind (shown registry name base : String)
  | notFound (name registry : String) (available : List String)
  deriving DecidableEq, Repr

namespace RegistryError

def message : RegistryError → String
  | .taken name registry =>
    "A " ++ registry ++ " plugin named " ++ quoted name ++ " is already registered."
  | .wrongKind shown registry name base =>
    "Cannot register " ++ shown ++ " as " ++ registry ++ " plugin " ++ quoted name ++
      ": it must subclass " ++ base ++ "."
  | .notFound name registry available =>
    "No " ++ registry ++ " plugin named " ++ quoted name ++ ". Available: " ++
      (if available.isEmpty then "none" else joinWith ", " available) ++ "."

end RegistryError

/-- An implementation that is provided under a name: its offer, or a failure to load it. -/
structure Provided (α : Type) where
  name : String
  offer? : Option (Offer α)

namespace Registry

variable {α : Type}

def empty (name base : String) (implements : α → Bool) (label : α → String) : Registry α :=
  ⟨name, base, implements, label, []⟩

def contains (r : Registry α) (name : String) : Bool := (r.bound.lookup name).isSome

def size (r : Registry α) : Nat := r.bound.length

/-- The bound names in alphabetical order. -/
def names (r : Registry α) : List String :=
  (r.bound.map (·.1)).mergeSort fun a b => decide (a ≤ b)

def get (r : Registry α) (name : String) : Except RegistryError α :=
  match r.bound.lookup name with
  | some v => .ok v
  | none => .error (.notFound name r.name r.names)

/-- Binds a name that is free to a class that implements the base.  There is a registry afterwards in any case,
also if the name cannot be bound. -/
def register (r : Registry α) (name : String) (offer : Offer α) :
    Logged (Registry α × Except RegistryError Unit) :=
  if r.contains name then ⟨(r, .error (.taken name r.name)), []⟩
  else
    match offer.cls?.filter r.implements with
    | none => ⟨(r, .error (.wrongKind offer.shown r.name name r.base)), []⟩
    | some c =>
      ⟨({ r with bound := r.bound ++ [(name, c)] }, .ok ()),
        [⟨.debug, "Registered " ++ r.name ++ " plugin " ++ quoted name ++ " -> " ++ r.label c⟩]⟩

/-- Binds a name to what is offered and hands the offer back. -/
def decorate (r : Registry α) (name : String) (offer : Offer α) :
    Logged (Registry α × Except RegistryError (Offer α)) :=
  let done := r.register name offer
  ⟨(done.value.1, done.value.2.map fun _ => offer), done.log⟩

/-- Loads one provided implementation unless its name is bound; the flag says whether it was loaded.  What
does not implement the base is passed over, and any other error is passed on. -/
def loadOne (r : Registry α) (group : String) (p : Provided α) :
    Logged (Registry α × Except RegistryError Bool) :=
  if r.contains p.name then
    ⟨(r, .ok false),
      [⟨.debug, "Entry-point " ++ quoted p.name ++ " already registered in " ++ quoted r.name ++
        "; skipping"⟩]⟩
  else
    match p.offer? with
    | none =>
      ⟨(r, .ok true),
        [⟨.error, "Failed to load entry-point " ++ quoted p.name ++ " from group " ++
          quoted group⟩]⟩
    | some offer =>
      let attempt := r.register p.name offer
      match attempt.value.2 with
      | .ok () => ⟨(attempt.value.1, .ok true), attempt.log⟩
      | .error e@(.wrongKind _ _ _ _) =>
        ⟨(attempt.value.1, .ok true), attempt.log ++
          [⟨.warning, "Entry-point " ++ quoted p.name ++ " skipped: " ++ e.message⟩]⟩
      | .error e => ⟨(attempt.value.1, .error e), attempt.log⟩

/-- Loads what is provided for a group, in order, up to an error that is passed on; the flags say what was
loaded. -/
def load (r : Registry α) (group : String) :
    List (Provided α) → Logged (Registry α × Except RegistryError (List Bool))
  | [] => ⟨(r, .ok []), []⟩
  | p :: rest =>
    let one := r.loadOne group p
    match one.value.2 with
    | .error e => ⟨(one.value.1, .error e), one.log⟩
    | .ok flag =>
      let later := load one.value.1 group rest
      ⟨(later.value.1, later.value.2.map (flag :: ·)), one.log ++ later.log⟩

/-- How a registry is shown. -/
def describe (r : Registry α) : String :=
  "PluginRegistry(name=" ++ quoted r.name ++ ", plugins=" ++ quotedList r.names ++ ")"

/-! ## Calls -/

/-- What can be asked of a registry. -/
inductive Call (α : Type)
  | register (name : String) (offer : Offer α)
  | decorate (name : String) (offer : Offer α)
  | get (name : String)
  | contains (name : String)
  | load (group : String) (provided : List (Provided α))

/-- What a call gives back. -/
inductive Reply (α : Type)
  | registered
  | decorated (offer : Offer α)
  | found (c : α)
  | contained (answer : Bool)
  /-- Which of the provided implementations were loaded. -/
  | loaded (flags : List Bool)

/-- One call: the registry after it, and the reply or why there is none. -/
def call (r : Registry α) : Call α → Logged (Registry α × Except RegistryError (Reply α))
  | .register name offer =>
    let done := r.register name offer
    ⟨(done.value.1, done.value.2.map fun _ => .registered), done.log⟩
  | .decorate name offer =>
    let done := r.decorate name offer
    ⟨(done.value.1, done.value.2.map .decorated), done.log⟩
  | .get name => ⟨(r, (r.get name).map .found), []⟩
  | .contains name => ⟨(r, .ok (.contained (r.contains name))), []⟩
  | .load group provided =>
    let done := r.load group provided
    ⟨(done.value.1, done.value.2.map .loaded), done.log⟩

end Registry

end PatternLint
