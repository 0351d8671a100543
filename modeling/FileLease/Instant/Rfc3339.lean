import FileLease.Instant.Scan

/-! # Instants in the form of RFC 3339

The writer uses the extended form with a sign for years of more than four digits or before year 0.
The reader is lenient: blanks may surround the numbers, leading zeros may be missing. -/
namespace FileLease.Instant
open Text

/-- Four digits, or a sign and at least four digits outside of the years 0 to 9999. -/
def writeYear (year : Int) : List Char :=
  if 0 ≤ year ∧ year ≤ 9999 then padded 4 year.toNat
  else (if year < 0 then '-' else '+') :: padded 4 year.natAbs

/-- A point and three, six or nine digits, as many as needed; nothing for zero. -/
def writeFraction (nanos : Nat) : List Char :=
  if nanos = 0 then []
  else if nanos % 1000000 = 0 then '.' :: padded 3 (nanos / 1000000)
  else if nanos % 1000 = 0 then '.' :: padded 6 (nanos / 1000)
  else '.' :: padded 9 nanos

def toRfc3339 (t : Instant) : String :=
  let (date, time) := t.civil
  String.ofList (writeYear date.year ++ '-' :: padded 2 date.month ++ '-' :: padded 2 date.day ++
    'T' :: padded 2 time.hour ++ ':' :: padded 2 time.minute ++ ':' :: padded 2 time.second ++
    writeFraction time.nanos ++ ['Z'])

/-- A year: with a sign any number of digits, without one up to four. -/
def scanYear (s : List Char) : Except Fault (Int × List Char) := do
  let (year, rest) ← match s with
    | '-' :: s => (scanNumber 1 none s).map fun (n, rest) => (-(n : Int), rest)
    | '+' :: s => (scanNumber 1 none s).map fun (n, rest) => ((n : Int), rest)
    | s => (scanNumber 1 (some 4) s).map fun (n, rest) => ((n : Int), rest)
  if -2147483648 ≤ year ∧ year ≤ 2147483647 then return (year, rest) else throw .outOfRange

/-- The first nine digits after a point as nanoseconds, if there is a point. -/
def scanFraction (s : List Char) : Except Fault (Nat × List Char) :=
  match s with
  | '.' :: s => do
    let (n, rest) ← scanNumber 1 (some 9) s
    let count := s.length - rest.length
    return (n * Nat.pow 10 (9 - count), rest.dropWhile Char.isDigit)
  | s => .ok (0, s)

/-- Colons and blanks may stand between the hours and the minutes of an offset. -/
def skipColons (s : List Char) : List Char :=
  s.dropWhile fun c => c = ':' || isBlank c

/-- An offset from universal time: `UTC` or `Z` in either case, or a sign, hours and minutes. -/
def scanOffset (s : List Char) : Except Fault (Int × List Char) :=
  match s with
  | [] => .error .tooShort
  | c :: rest =>
    if (s.take 3).map Char.toLower = ['u', 't', 'c'] then .ok (0, s.drop 3)
    else if c = 'Z' ∨ c = 'z' then .ok (0, rest)
    else if c = '+' then
      (scanHoursMinutes skipColons rest).map fun (n, rest) => ((n : Int), rest)
    else if c = '-' ∨ c = '−' then
      (scanHoursMinutes skipColons rest).map fun (n, rest) => (-(n : Int), rest)
    else .error .invalid

def ofRfc3339 (s : String) : Except Fault Instant := do
  let (year, rest) ← scanYear (trimStart s.toList)
  let rest ← scanChar '-' (trimStart rest)
  let (month, rest) ← scanBetween 1 12 1 (some 2) (trimStart rest)
  let rest ← scanChar '-' (trimStart rest)
  let (day, rest) ← scanBetween 1 31 1 (some 2) (trimStart rest)
  let rest ← match rest with
    | [] => throw .tooShort
    | c :: rest => if c = 'T' ∨ c = 't' ∨ c = ' ' then pure rest else throw .invalid
  let (hour, rest) ← scanBetween 0 23 1 (some 2) (trimStart rest)
  let rest ← scanChar ':' (trimStart rest)
  let (minute, rest) ← scanBetween 0 59 1 (some 2) (trimStart rest)
  let rest ← scanChar ':' (trimStart rest)
  let (second, rest) ← scanBetween 0 60 1 (some 2) (trimStart rest)
  let (nanos, rest) ← scanFraction rest
  let (offset, rest) ← scanOffset (trimStart rest)
  unless (trimStart rest).isEmpty do throw .tooLong
  ofLocal ⟨year, month, day⟩ none ⟨hour, minute, second, nanos⟩ offset

end FileLease.Instant
