import FileLease.Instant.Scan

/-! # Instants in the form of RFC 2822, as HTTP dates are written -/
namespace FileLease.Instant
open Text

def weekdayNames : List String := ["Mon", "Tue", "Wed", "Thu", "Fri", "Sat", "Sun"]

def monthNames : List String :=
  ["Jan", "Feb", "Mar", "Apr", "May", "Jun", "Jul", "Aug", "Sep", "Oct", "Nov", "Dec"]

/-- The place in a list of names of three letters of the name that starts the text, in any case. -/
def scanName? (names : List String) (s : List Char) : Option (Nat × List Char) :=
  let start := (s.take 3).map Char.toLower
  (names.findIdx? fun name => name.toList.map Char.toLower == start).map (·, s.drop 3)

/-- Two digits name a year from 1950 to 2049, three digits count from 1900. -/
def fullYear (digits year : Nat) : Nat :=
  if digits = 2 then if year < 50 then year + 2000 else year + 1900
  else if digits = 3 then year + 1900
  else year

/-- Hours from universal time of the zones with a name: four zones of North America with and
without daylight saving, and the letters other than J, which say nothing. -/
def zoneHours? (name : String) : Option Int :=
  match name with
  | "gmt" | "ut" | "z" => some 0
  | "edt" => some (-4)
  | "est" | "cdt" => some (-5)
  | "cst" | "mdt" => some (-6)
  | "mst" | "pdt" => some (-7)
  | "pst" => some (-8)
  | _ => if name.length = 1 ∧ name ≠ "j" then some 0 else none

/-- An offset from universal time: the name of a zone, or a sign and four digits. -/
def scanZone (s : List Char) : Except Fault (Int × List Char) :=
  let letters := s.takeWhile Char.isAlpha
  if letters.isEmpty then
    match s with
    | [] => .error .tooShort
    | '+' :: rest => (scanHoursMinutes id rest).map fun (n, rest) => ((n : Int), rest)
    | '-' :: rest => (scanHoursMinutes id rest).map fun (n, rest) => (-(n : Int), rest)
    | _ => .error .invalid
  else
    match zoneHours? (String.ofList (letters.map Char.toLower)) with
    | some hours => .ok (hours * 3600, s.drop letters.length)
    | none => .error .invalid

/-- Whether a text holds nothing but comments in parentheses, blanks being allowed before each;
`depth` of them are open. A backslash escapes the character after it. -/
def isComments : (depth : Nat) → List Char → Bool
  | 0, [] => true
  | 0, '(' :: rest => isComments 1 rest
  | 0, c :: rest => isBlank c && !rest.isEmpty && isComments 0 rest
  | _ + 1, [] => false
  | _ + 1, ['\\'] => false
  | depth + 1, '\\' :: _ :: rest => isComments (depth + 1) rest
  | depth + 1, '(' :: rest => isComments (depth + 2) rest
  | depth + 1, ')' :: rest => isComments depth rest
  | depth + 1, _ :: rest => isComments (depth + 1) rest

/-- A time of day; its seconds may be missing. -/
def scanTime (s : List Char) : Except Fault (Time × List Char) := do
  let (hour, rest) ← scanBetween 0 23 2 (some 2) s
  let rest ← scanChar ':' (trimStart rest)
  let (minute, rest) ← scanBetween 0 59 2 (some 2) (trimStart rest)
  match trimStart rest with
  | ':' :: after =>
    let (second, rest) ← scanBetween 0 60 2 (some 2) after
    return (⟨hour, minute, second, 0⟩, rest)
  | _ => return (⟨hour, minute, 0, 0⟩, rest)

/-- The instant that a text names: a day of the week and a comma, which may be missing, the day,
the month by name, the year, the time and the zone. -/
def ofRfc2822 (s : String) : Except Fault Instant := do
  let start := trimStart s.toList
  let (weekday, rest) ← match scanName? weekdayNames start with
    | some (weekday, rest) => (scanChar ',' rest).map (some weekday, ·)
    | none => pure (none, start)
  let (day, rest) ← scanBetween 1 31 1 (some 2) (trimStart rest)
  let rest ← scanBlanks rest
  let (month, rest) ← match scanName? monthNames rest with
    | some found => pure found
    | none => throw (if byteLength rest < 3 then .tooShort else .invalid)
  let rest ← scanBlanks rest
  let (written, after) ← scanNumber 2 none rest
  let year := fullYear (rest.length - after.length) written
  unless year ≤ 2147483647 do throw .outOfRange
  let rest ← scanBlanks after
  let (time, rest) ← scanTime rest
  let rest ← scanBlanks rest
  let (offset, rest) ← scanZone rest
  unless isComments 0 rest do throw .tooLong
  ofLocal ⟨year, month + 1, day⟩ weekday time offset

def toRfc2822 (t : Instant) : String :=
  let (date, time) := t.civil
  let name (names : List String) (n : Nat) : List Char := ((names[n]?).getD "").toList
  String.ofList (name weekdayNames (Date.weekday (t.seconds / 86400)) ++ ',' :: ' ' ::
    padded 2 date.day ++ ' ' :: name monthNames (date.month - 1) ++ ' ' ::
    padded 4 date.year.toNat ++ ' ' :: padded 2 time.hour ++ ':' :: padded 2 time.minute ++
    ':' :: padded 2 time.second ++ [' ', 'G', 'M', 'T'])

end FileLease.Instant
