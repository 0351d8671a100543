import FileLease.Instant.Basic
import FileLease.Text.Blank
import FileLease.Text.Numeral
import FileLease.Text.Taken

/-! # Pieces of written dates -/
namespace FileLease.Instant
open Text

/-- A number of at least `least` and at most `most` decimal digits, and what follows it. -/
def scanNumber (least : Nat) (most : Option Nat) (s : List Char) :
    Except Fault (Nat × List Char) :=
  let digits := (match most with | some n => s.take n | none => s).takeWhile Char.isDigit
  if digits.length < least then
    .error (if byteLength s < least then .tooShort else .invalid)
  else .ok (Nat.ofDigitChars 10 digits 0, s.drop digits.length)

/-- As `scanNumber`, for a number that has to lie between `low` and `high`. -/
def scanBetween (low high least : Nat) (most : Option Nat) (s : List Char) :
    Except Fault (Nat × List Char) := do
  let (n, rest) ← scanNumber least most s
  if low ≤ n ∧ n ≤ high then return (n, rest) else throw .outOfRange

def scanChar (c : Char) : List Char → Except Fault (List Char)
  | [] => .error .tooShort
  | d :: rest => if d = c then .ok rest else .error .invalid

def scanBlanks (s : List Char) : Except Fault (List Char) :=
  match s with
  | [] => .error .tooShort
  | c :: _ => if isBlank c then .ok (trimStart s) else .error .invalid

/-- Hours and minutes of an offset from universal time as seconds, `between` being what may stand
between the two. -/
def scanHoursMinutes (between : List Char → List Char) (s : List Char) :
    Except Fault (Nat × List Char) := do
  let (hours, rest) ← scanNumber 2 (some 2) s
  let rest := between rest
  let (minutes, after) ← scanNumber 2 (some 2) rest
  if minutes < 60 then return (hours * 3600 + minutes * 60, after) else throw .outOfRange

end FileLease.Instant
