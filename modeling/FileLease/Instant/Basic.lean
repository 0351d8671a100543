import FileLease.Instant.Date

/-! # Instants of universal time -/
namespace FileLease

/-- An instant: whole seconds from the first of January 1970, and nanoseconds into the second. A
leap second is the second before it with a thousand million nanoseconds and more. -/
structure Instant where
  seconds : Int
  nanos : Nat
  deriving DecidableEq, Repr

namespace Instant

def epoch : Instant := ⟨0, 0⟩

/-- The instant at the start of its second. -/
def truncate (t : Instant) : Instant :=
  ⟨t.seconds, 0⟩

def addSeconds (t : Instant) (n : Int) : Instant :=
  ⟨t.seconds + n, t.nanos⟩

def isLE (a b : Instant) : Bool :=
  a.seconds < b.seconds || (a.seconds == b.seconds && a.nanos ≤ b.nanos)

def latest (a b : Instant) : Instant :=
  if a.isLE b then b else a

/-- The first and the last second of the calendar in use. -/
def firstSecond : Int := (Date.toDays ⟨Date.firstYear, 1, 1⟩) * 86400
def lastSecond : Int := (Date.toDays ⟨Date.lastYear, 12, 31⟩) * 86400 + 86399

/-- Within the calendar in use, and in a leap second only at the end of a minute. -/
def Representable (t : Instant) : Prop :=
  firstSecond ≤ t.seconds ∧ t.seconds ≤ lastSecond ∧ t.nanos < 2000000000 ∧
    (1000000000 ≤ t.nanos → t.seconds % 60 = 59)

instance (t : Instant) : Decidable t.Representable :=
  inferInstanceAs (Decidable (_ ∧ _))

inductive Fault
  | outOfRange
  | impossible
  | invalid
  | tooShort
  | tooLong
  deriving DecidableEq, Repr

def Fault.message : Fault → String
  | .outOfRange => "input is out of range"
  | .impossible => "no possible date and time matching input"
  | .invalid => "input contains invalid characters"
  | .tooShort => "premature end of input"
  | .tooLong => "trailing input"

/-- A time of day as a clock shows it; 60 stands for a leap second. -/
structure Time where
  hour : Nat
  minute : Nat
  second : Nat
  nanos : Nat
  deriving DecidableEq, Repr

/-- The instant at which a clock that is `offset` seconds ahead of universal time shows the given
date, time and, if there is one, day of the week. -/
def ofLocal (date : Date) (weekday : Option Nat) (time : Time) (offset : Int) :
    Except Fault Instant := do
  unless date.Valid do throw .outOfRange
  let days := date.toDays
  unless weekday.all (· == Date.weekday days) do throw .impossible
  unless -86400 < offset ∧ offset < 86400 do throw .outOfRange
  let leap := time.second = 60
  let seconds := days * 86400 + time.hour * 3600 + time.minute * 60 +
    (if leap then 59 else time.second) - offset
  unless firstSecond ≤ seconds ∧ seconds ≤ lastSecond do throw .impossible
  return ⟨seconds, if leap then time.nanos + 1000000000 else time.nanos⟩

/-- The date and time that a clock of universal time shows. -/
def civil (t : Instant) : Date × Time :=
  let secondOfDay := (t.seconds % 86400).toNat
  let leap := 1000000000 ≤ t.nanos
  (Date.ofDays (t.seconds / 86400),
    ⟨secondOfDay / 3600, secondOfDay / 60 % 60,
      secondOfDay % 60 + (if leap then 1 else 0),
      if leap then t.nanos - 1000000000 else t.nanos⟩)

end Instant
end FileLease
