import PatternLint.Command.Usage

/-!
# The words of a call

Separates switches with their values from operands.  Two dashes end the switches; short switches may
stand together, and the value of one may follow it directly.
-/

namespace PatternLint.Command

open PatternLint.Text

/-- What was given: switches in the order of the call, a switch without a value with an empty text, and
the other words. -/
structure Given where
  switches : List (Switch × String)
  operands : List String
  deriving DecidableEq, Repr

namespace Given

/-- The value of a switch; the last one counts. -/
def value? (g : Given) (s : Switch) : Option String := g.switches.reverse.lookup s

def has (g : Given) (s : Switch) : Bool := (g.value? s).isSome

def addSwitch (g : Given) (s : Switch) (value : String) : Given :=
  { g with switches := (s, value) :: g.switches }

def addOperand (g : Given) (word : String) : Given := { g with operands := g.operands ++ [word] }

end Given

/-- A switch that was read, and the words behind it. -/
structure SwitchRead where
  found : List (Switch × String)
  rest : List String

def longSwitch? (offers : List Offer) (name : String) : Option Switch :=
  (offers.map (·.switch)).find? fun s => s.long == name

def shortSwitch? (offers : List Offer) (name : String) : Option Switch :=
  (offers.map (·.switch)).find? fun s => s.short? == some name

/-- A long switch, with its value in the same word or in the next one. -/
def readLong (s : Switch) (value : Option String) (rest : List String) :
    Except UsageError SwitchRead :=
  match s.takes?, value, rest with
  | none, none, rest => .ok ⟨[(s, "")], rest⟩
  | none, some _, _ => .error (.valueUnexpected s.long)
  | some _, some v, rest => .ok ⟨[(s, v)], rest⟩
  | some _, none, v :: rest => .ok ⟨[(s, v)], rest⟩
  | some _, none, [] => .error (.valueMissing s.long)

/-- Short switches that stand together. -/
def readShort (offers : List Offer) (rest : List String) :
    List Char → Except UsageError SwitchRead
  | [] => .ok ⟨[], rest⟩
  | c :: more =>
    let name := String.ofList ['-', c]
    match shortSwitch? offers name with
    | none => .error (.unknownSwitch name [])
    | some s =>
      match s.takes?, more, rest with
      | none, more, rest => do
        let read ← readShort offers rest more
        .ok ⟨(s, "") :: read.found, read.rest⟩
      | some _, [], [] => .error (.valueMissing name)
      | some _, [], v :: rest => .ok ⟨[(s, v)], rest⟩
      | some _, more, rest => .ok ⟨[(s, String.ofList more)], rest⟩

/-- The name in a word, and the value behind an equals sign. -/
def splitValue (word : String) : String × Option String :=
  let name := word.toList.takeWhile (· != '=')
  match word.toList.drop name.length with
  | _ :: value => (String.ofList name, some (String.ofList value))
  | [] => (word, none)

/-- A word that starts with a dash. -/
def readSwitch (offers : List Offer) (word : String) (rest : List String) :
    Except UsageError SwitchRead :=
  let (name, value) := splitValue word
  match longSwitch? offers name with
  | some s => readLong s value rest
  | none =>
    match word.toList with
    | '-' :: '-' :: _ =>
      .error (.unknownSwitch name (similarWords name (offers.map (·.switch.long))))
    | _ :: letters => readShort offers rest letters
    | [] => .ok ⟨[], rest⟩

/-- Whether a word is a switch. -/
def isSwitch (word : String) : Bool := word.toList.head? == some '-' && 1 < word.length

/-- Reads words; before a command the first operand ends the switches.  `fuel` bounds the number of
words. -/
def readWords (l : Level) : Nat → Given → List String → Except UsageError Given
  | 0, g, _ => .ok g
  | _, g, [] => .ok g
  | fuel + 1, g, word :: rest =>
    if word == "--" then .ok { g with operands := g.operands ++ rest }
    else if isSwitch word then do
      let read ← readSwitch l.offers word rest
      readWords l fuel (read.found.foldl (fun g (s, v) => g.addSwitch s v) g) read.rest
    else if l = .general then .ok { g with operands := word :: rest }
    else readWords l fuel (g.addOperand word) rest

/-- Separates the words of a call. -/
def Given.ofWords (l : Level) (words : List String) : Except UsageError Given := do
  let g ← readWords l (words.length + 1) ⟨[], []⟩ words
  .ok { g with switches := g.switches.reverse }

end PatternLint.Command
