import FileLease.Instant.Date
import FileLease.Text.Blank
import FileLease.Text.Numeral
import FileLease.Text.Taken

/-! # Strings, numbers and dates of TOML -/
namespace FileLease.Toml
open Text

def isBlank (c : Char) : Bool :=
  c = ' ' || c = '\t'

def skipBlanks (s : List Char) : Taken 0 s Unit :=
  (takeRun isBlank s).map fun _ => ()

def readNewline? (s : List Char) : Option (Taken 1 s Unit) :=
  match s with
  | '\n' :: _ => some (.first ())
  | '\r' :: '\n' :: _ => some (Taken.first ()).behind
  | _ => none

/-- Characters that stand for themselves in strings and comments. -/
def isPlain (c : Char) : Bool :=
  c = '\t' || (0x20 ≤ c.toNat && c.toNat ≠ 0x7F)

def skipComment (s : List Char) : Taken 0 s Unit :=
  match s with
  | '#' :: rest =>
    ((takeRun isPlain rest).map fun _ => ()).behind.loosen
  | s => .none s ()

/-- The character that a number of hexadecimal digits names. -/
def readCodePoint? (count : Nat) (s : List Char) : Option (Taken 0 s Char) := do
  let digits := s.take count
  if digits.length ≠ count then none
  let n ← readHex? digits
  if n < 0xD800 ∨ 0xDFFF < n ∧ n < 0x110000 then
    some ⟨Char.ofNat n, s.drop count, by simp only [List.length_drop]; omega⟩
  else none

def readEscape? (s : List Char) : Option (Taken 1 s Char) :=
  match s with
  | [] => none
  | c :: rest =>
    if c = '\x22' ∨ c = '\\' then some (.first c)
    else if c = 'b' then some (.first '\x08')
    else if c = 't' then some (.first '\t')
    else if c = 'n' then some (.first '\n')
    else if c = 'f' then some (.first '\x0c')
    else if c = 'r' then some (.first '\r')
    else if c = 'u' then (readCodePoint? 4 rest).map (·.behind)
    else if c = 'U' then (readCodePoint? 8 rest).map (·.behind)
    else none

/-- The characters of a string of one line up to its closing mark; between quotation marks there may
be escapes. -/
def readLine? (mark : Char) (s : List Char) : Option (Taken 1 s (List Char)) :=
  match s with
  | [] => none
  | c :: rest =>
    if c = mark then some (.first [])
    else if c = '\\' ∧ mark = '\x22' then
      match readEscape? rest with
      | none => none
      | some escape =>
        have := escape.rest_lt
        (readLine? mark escape.rest).map fun t =>
          (escape.followed (t.map (escape.value :: ·))).behind
    else if isPlain c then
      (readLine? mark rest).map fun t => (t.map (c :: ·)).behind
    else none
termination_by s.length

def isGap (c : Char) : Bool :=
  isBlank c || c = '\n' || c = '\r'

/-- The blank text from the end of a line on, blanks being allowed before that. -/
def readLineGap? (s : List Char) : Option (Taken 0 s Unit) :=
  let blanks := takeRun isBlank s
  (readNewline? blanks.rest).map fun newline =>
    blanks.followed (newline.followed ((takeRun isGap newline.rest).map fun _ => ()))

/-- The number of times that a character stands at the front. -/
def runLength (mark : Char) (s : List Char) : Nat :=
  (s.takeWhile (· = mark)).length

/-- The characters of a string of several lines up to its three closing marks, before which up to
two marks may stand. Between quotation marks there may be escapes, and a backslash at the end of a
line takes away what is blank up to the next text. -/
def readLines? (mark : Char) (s : List Char) : Option (Taken 1 s (List Char)) :=
  match s with
  | [] => none
  | c :: rest =>
    if c = mark then
      let run := runLength mark (c :: rest)
      if 3 ≤ run then
        if h : 5 < run then none
        else some ⟨List.replicate (run - 3) mark, (c :: rest).drop (max 1 run), by
          simp only [List.length_drop, List.length_cons]; omega⟩
      else (readLines? mark rest).map fun t => (t.map (c :: ·)).behind
    else if c = '\\' ∧ mark = '\x22' then
      match readLineGap? rest with
      | some gap =>
        have := gap.rest_le
        (readLines? mark gap.rest).map fun t => (gap.followed t).behind
      | none =>
        match readEscape? rest with
        | none => none
        | some escape =>
          have := escape.rest_lt
          (readLines? mark escape.rest).map fun t =>
            (escape.followed (t.map (escape.value :: ·))).behind
    else match readNewline? (c :: rest) with
      | some newline =>
        have := newline.rest_lt
        (readLines? mark newline.rest).map fun t => newline.followed (t.map ('\n' :: ·))
      | none =>
        if isPlain c then
          (readLines? mark rest).map fun t => (t.map (c :: ·)).behind
        else none
termination_by s.length
decreasing_by all_goals (simp only [List.length_cons] at *; omega)

/-- A string, after its first mark. -/
def readText? (mark : Char) (s : List Char) : Option (Taken 1 s String) :=
  match s with
  | a :: b :: rest =>
    if a = mark ∧ b = mark then
      let body : Taken 0 rest Unit := match readNewline? rest with
        | some t => t.loosen
        | none => .none rest ()
      (readLines? mark body.rest).map fun t =>
        (body.followed (t.map String.ofList)).behind.behind
    else (readLine? mark (a :: b :: rest)).map (·.map String.ofList)
  | s => (readLine? mark s).map (·.map String.ofList)

/-- Digits that satisfy `p`, single underscores being allowed between them. -/
def isDigits (p : Char → Bool) (s : List Char) : Bool :=
  let parts := s.splitOn '_'
  parts.all fun part => !part.isEmpty && part.all p

def withoutSign (s : List Char) : List Char :=
  if s.head? = some '+' ∨ s.head? = some '-' then s.tail else s

/-- Decimal digits without a zero at the front. -/
def isDecimal (s : List Char) : Bool :=
  isDigits Char.isDigit s && (s.length = 1 || s.head? ≠ some '0')

/-- The number that digits of a base name, underscores between them not counting. -/
def digitsValue (base : Nat) (s : List Char) : Nat :=
  (s.filterMap hexValue?).foldl (fun n d => n * base + d) 0

def isDigitOf (base : Nat) (c : Char) : Bool :=
  (hexValue? c).any (· < base)

def readInteger? (s : List Char) : Option Int :=
  let based (base : Nat) (digits : List Char) : Option Int :=
    let n := digitsValue base digits
    if isDigits (isDigitOf base) digits ∧ n < UInt64.size / 2 then some n else none
  match s with
  | '0' :: 'x' :: digits => based 16 digits
  | '0' :: 'o' :: digits => based 8 digits
  | '0' :: 'b' :: digits => based 2 digits
  | s =>
    let digits := withoutSign s
    let n : Int := if s.head? = some '-' then -digitsValue 10 digits else digitsValue 10 digits
    let bound : Int := (UInt64.size / 2 : Nat)
    if isDecimal digits ∧ -bound ≤ n ∧ n < bound then some n else none

/-- Whether a decimal is so large that no binary float is near it, `places` being how many of its
digits stand after the point. -/
def isTooLarge (digits : List Char) (places : Nat) (exponent : Int) : Bool :=
  let n := digitsValue 10 digits
  let exponent := exponent - places
  if n = 0 ∨ (decimal n).length + exponent < 300 then false
  else if 400 < (decimal n).length + exponent then true
  else
    let bound := Nat.pow 2 1024 - Nat.pow 2 970
    bound * Nat.pow 10 (-exponent).toNat ≤ n * Nat.pow 10 exponent.toNat

/-- A number with a point or an exponent, infinity, or no number. -/
def isFloat (s : List Char) : Bool :=
  let size := withoutSign s
  if size = ['i', 'n', 'f'] ∨ size = ['n', 'a', 'n'] then true
  else
    let isMark (c : Char) : Bool := c = 'e' || c = 'E'
    let mantissa := size.takeWhile (! isMark ·)
    let exponent := size.drop mantissa.length
    let whole := mantissa.takeWhile (· ≠ '.')
    let fraction := mantissa.drop whole.length
    let power := digitsValue 10 (withoutSign (exponent.drop 1))
    isDecimal whole &&
      (fraction.isEmpty || isDigits Char.isDigit (fraction.drop 1)) &&
      (exponent.isEmpty || isDigits Char.isDigit (withoutSign (exponent.drop 1))) &&
      !(fraction.isEmpty && exponent.isEmpty) &&
      (s.head? = some '-' ||
        !isTooLarge (whole ++ fraction.drop 1) ((fraction.drop 1).filter (· ≠ '_')).length
          (if (exponent.drop 1).head? = some '-' then -power else power))

/-- The number that two digits name, up to a bound. -/
def readPair? (low high : Nat) (s : List Char) : Option Nat :=
  if s.length = 2 then (readDecimal? s).filter fun n => low ≤ n && n ≤ high else none

def isDate (s : List Char) : Bool :=
  match s.splitOn '-' with
  | [year, month, day] =>
    match (if year.length = 4 then readDecimal? year else none), readPair? 1 12 month,
        readPair? 1 31 day with
    | some year, some month, some day => day ≤ Date.monthLength year month
    | _, _, _ => false
  | _ => false

def isTime (s : List Char) : Bool :=
  match s.splitOn ':' with
  | [hour, minute, second] =>
    (readPair? 0 23 hour).isSome && (readPair? 0 59 minute).isSome &&
      (readPair? 0 60 (second.take 2)).isSome &&
      match second.drop 2 with
      | [] => true
      | c :: digits => c = '.' && !digits.isEmpty && digits.all Char.isDigit
  | _ => false

/-- A time, and after it the offset from universal time, if there is one. -/
def isZonedTime (s : List Char) : Bool :=
  let time := s.takeWhile fun c => c.isDigit || c = ':' || c = '.'
  isTime time &&
    match s.drop time.length with
    | [] => true
    | [c] => c = 'Z' || c = 'z'
    | c :: offset =>
      (c = '+' || c = '-') &&
        match offset.splitOn ':' with
        | [hour, minute] => (readPair? 0 23 hour).isSome && (readPair? 0 59 minute).isSome
        | _ => false

/-- A date, a time without offset, or a date and a time with a letter between them. -/
def isMoment (s : List Char) : Bool :=
  isDate s || isTime s ||
    (isDate (s.take 10) && isZonedTime (s.drop 11) &&
      match s.drop 10 with
      | c :: _ => c = 'T' || c = 't'
      | [] => false)

end FileLease.Toml
