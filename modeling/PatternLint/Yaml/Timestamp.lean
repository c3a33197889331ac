import PatternLint.Yaml.Number

/-!
# Dates and times

`Timestamp.read` takes a date, or a date with a time of day, apart; `Timestamp.check` says which field
of it is out of range, if one is.
-/

namespace PatternLint.Yaml

structure TimeOfDay where
  hour : Nat
  minute : Nat
  second : Nat
  /-- The distance of the time zone in seconds, if it is written as a number. -/
  zone : Option Int
  deriving DecidableEq, Repr

structure Timestamp where
  year : Nat
  month : Nat
  day : Nat
  time : Option TimeOfDay
  deriving DecidableEq, Repr

namespace Timestamp

/-- Between `least` and `most` digits, as many as there are. -/
def digits (least most : Nat) (s : List Char) : Option (Nat × List Char) :=
  let run := (s.take most).takeWhile isDigit
  if run.length < least then none
  else some (run.foldl (fun n d => 10 * n + (d.toNat - 48)) 0, s.drop run.length)

def expect (c : Char) : List Char → Option (List Char)
  | x :: rest => if x = c then some rest else none
  | [] => none

/-- A time zone at the very end of a timestamp: nothing, a letter, or a distance. -/
def zone (s : List Char) : Option (Option Int) :=
  match s.dropWhile fun c => c == ' ' || c == '\t' with
  | [] => if s.isEmpty then some none else none
  | ['Z'] => some none
  | sign :: rest =>
    if sign == '+' || sign == '-' then do
      let (hours, rest) ← digits 1 2 rest
      let minutes ←
        match rest with
        | [] => some 0
        | _ => do
          let (minutes, rest) ← digits 2 2 (← expect ':' rest)
          if rest.isEmpty then some minutes else none
      let distance : Int := 3600 * hours + 60 * minutes
      some (some (if sign == '-' then -distance else distance))
    else none

/-- The decimals of a second, which are of no consequence. -/
def skipFraction : List Char → List Char
  | '.' :: rest => rest.dropWhile isDigit
  | s => s

def timeOfDay (s : List Char) : Option TimeOfDay := do
  let (hour, s) ← digits 1 2 s
  let (minute, s) ← digits 2 2 (← expect ':' s)
  let (second, s) ← digits 2 2 (← expect ':' s)
  let zone ← zone (skipFraction s)
  some ⟨hour, minute, second, zone⟩

/-- What stands between the date and the time. -/
def skipGap : List Char → Option (List Char)
  | c :: rest =>
    if c == 'T' || c == 't' then some rest
    else if c == ' ' || c == '\t' then some (rest.dropWhile fun x => x == ' ' || x == '\t')
    else none
  | [] => none

def read (s : List Char) : Option Timestamp := do
  let (year, s) ← digits 4 4 s
  let (month, s) ← digits 1 2 (← expect '-' s)
  let (day, s) ← digits 1 2 (← expect '-' s)
  if s.isEmpty then some ⟨year, month, day, none⟩
  else
    let time ← timeOfDay (← skipGap s)
    some ⟨year, month, day, some time⟩

/-- Whether a plain scalar is a timestamp; a lone date is written with all its digits. -/
def isWritten (s : List Char) : Bool :=
  match read s with
  | none => false
  | some t => t.time.isSome || s.length == 10

def isLeap (year : Nat) : Bool := year % 4 == 0 && (year % 100 != 0 || year % 400 == 0)

def daysIn (year month : Nat) : Nat :=
  if month = 2 then if isLeap year then 29 else 28
  else if month = 4 ∨ month = 6 ∨ month = 9 ∨ month = 11 then 30
  else 31

def dateFault? (t : Timestamp) : Option CalendarField :=
  if t.year = 0 then some .year
  else if t.month = 0 || 12 < t.month then some .month
  else if t.day = 0 || daysIn t.year t.month < t.day then some .day
  else none

def timeFault? (t : TimeOfDay) : Option CalendarField :=
  if 23 < t.hour then some .hour
  else if 59 < t.minute then some .minute
  else if 59 < t.second then some .second
  else none

/-- A time zone lies less than a day away. -/
def zoneFault? (t : TimeOfDay) : Option Int :=
  t.zone.filter fun z => z ≤ -86400 || 86400 ≤ z

def check (t : Timestamp) : Except Fault Unit :=
  match t.time.bind zoneFault?, t.dateFault?, t.time.bind timeFault? with
  | some z, _, _ => .error (.zoneOffset z)
  | none, some f, _ => .error (.outOfCalendar f)
  | none, none, some f => .error (.outOfCalendar f)
  | none, none, none => .ok ()

end Timestamp

end PatternLint.Yaml
