import FileLease.Json.Problem
import FileLease.Text.Taken

/-! # Words, strings and numbers of a JSON text -/
namespace FileLease.Json
open Text

def isBlank (c : Char) : Bool :=
  c = ' ' || c = '\n' || c = '\t' || c = '\r'

def skipBlanks (s : List Char) : List Char :=
  s.dropWhile isBlank

theorem skipBlanks_length (s : List Char) : (skipBlanks s).length ≤ s.length :=
  (List.dropWhile_suffix _).length_le

def readLetters : (word s : List Char) → Except Halt (Taken 0 s Unit)
  | [], s => .ok (.none s ())
  | _ :: _, [] => .error (.before (.ended .value) [])
  | c :: word, d :: rest =>
    if c = d then
      (readLetters word rest).map (·.behind.loosen)
    else .error (.atNext .wordExpected (d :: rest))

def readUnit (s : List Char) : Except Halt (Taken 1 s Nat) :=
  if byteLength s < 4 then .error ⟨.ended .string, 0⟩
  else match s with
    | a :: b :: c :: d :: _ =>
      match readHex? [a, b, c, d] with
      | some n => .ok (Taken.first n).behind.behind.behind
      | none => .error ⟨.invalidEscape, byteLength s - 4⟩
    | _ => .error ⟨.invalidEscape, byteLength s - 4⟩

def isLeading (n : Nat) : Bool := 0xD800 ≤ n && n ≤ 0xDBFF
def isTrailing (n : Nat) : Bool := 0xDC00 ≤ n && n ≤ 0xDFFF

/-- The character of an escape by code units. In a text that is not kept surrogates may stand
alone. -/
def readUnits (kept : Bool) (s : List Char) : Except Halt (Taken 1 s Char) := do
  let first ← readUnit s
  if !kept then return first.map fun _ => ' '
  if isTrailing first.value then throw (.before .loneSurrogate first.rest)
  if !isLeading first.value then return first.map Char.ofNat
  match h : first.rest with
  | '\\' :: 'u' :: after =>
    let second ← readUnit after
    if !isTrailing second.value then throw (.before .loneSurrogate second.rest)
    return ⟨Char.ofNat ((first.value - 0xD800) * 0x400 + (second.value - 0xDC00) + 0x10000),
      second.rest, by
        have h1 := first.shorter
        have h2 := second.shorter
        simp only [h, List.length_cons] at h1
        omega⟩
  | '\\' :: after => throw (if after.isEmpty then .before (.ended .string) []
      else .atNext .endedEscape after)
  | after => throw (if after.isEmpty then .before (.ended .string) []
      else .atNext .endedEscape after)

def readEscape (kept : Bool) (s : List Char) : Except Halt (Taken 1 s Char) :=
  match s with
  | [] => .error (.before (.ended .string) [])
  | c :: rest =>
    if c = '\x22' ∨ c = '\\' ∨ c = '/' then .ok (.first c)
    else if c = 'b' then .ok (.first '\x08')
    else if c = 'f' then .ok (.first '\x0c')
    else if c = 'n' then .ok (.first '\n')
    else if c = 'r' then .ok (.first '\r')
    else if c = 't' then .ok (.first '\t')
    else if c = 'u' then (readUnits kept rest).map (·.behind)
    else .error (.atNext .invalidEscape (c :: rest))

/-- The characters of a string and the text after it; the opening quotation mark has been read. A
text that is not kept is checked less, see `readUnits`, and a control character in it is reported
at its own place. -/
def readCharacters (kept : Bool) (s : List Char) : Except Halt (Taken 1 s (List Char)) :=
  match s with
  | [] => .error (.before (.ended .string) [])
  | c :: rest =>
    if c = '\x22' then .ok (.first [])
    else if c = '\\' then
      match readEscape kept rest with
      | .error e => .error e
      | .ok escape =>
        have := escape.rest_lt
        (readCharacters kept escape.rest).map fun t =>
          (escape.followed (t.map (escape.value :: ·))).behind
    else if c.toNat < 0x20 then
      .error (if kept then .atNext .controlCharacter s else .before .controlCharacter s)
    else (readCharacters kept rest).map fun t => (t.map (c :: ·)).behind
termination_by s.length

def readString (s : List Char) : Except Halt (Taken 1 s String) :=
  (readCharacters true s).map fun t => t.map String.ofList

/-- Decimal digits taken into a number as long as it stays below `2 ^ 64`, and the digits that no
longer fit. -/
def absorb (n : Nat) : List Char → Nat × List Char
  | [] => (n, [])
  | c :: digits =>
    let next := n * 10 + (c.toNat - '0'.toNat)
    if next < UInt64.size then absorb next digits else (n, c :: digits)

/-- `x * 10 ^ exponent` by one multiplication or division, or by several for small exponents;
nothing if it is too large. -/
def scale (x : Float) (exponent : Int) : Option Float :=
  if exponent.natAbs ≤ 308 then
    let power := Float.ofScientific 1 false exponent.natAbs
    if 0 ≤ exponent then (some (x * power)).filter (! ·.isInf) else some (x / power)
  else if x == 0 then some x
  else if 0 ≤ exponent then none
  else scale (x / 1e308) (exponent + 308)
termination_by exponent.natAbs
decreasing_by omega

def readFraction (s : List Char) : Except Halt (Taken 0 s (Option (List Char))) :=
  match s with
  | '.' :: rest =>
    let digits := takeRun Char.isDigit rest
    if digits.value.isEmpty then
      .error (if rest.isEmpty then .before (.ended .value) [] else .atNext .invalidNumber rest)
    else .ok (digits.map some).behind.loosen
  | s => .ok (.none s none)

/-- The greatest exponent that is read as such. -/
def exponentBound : Nat := 2147483647

def readSign (s : List Char) : Taken 0 s Bool :=
  match s with
  | '-' :: _ => (Taken.first true).loosen
  | '+' :: _ => (Taken.first false).loosen
  | s => .none s false

/-- The exponent of ten, if there is one. An exponent too large to be read counts as infinite,
unless it would make a number other than zero too large. -/
def readExponent (zero : Bool) (s : List Char) : Except Halt (Taken 0 s (Option (Option Int))) :=
  match s with
  | [] => .ok (.none [] none)
  | e :: rest =>
    if e = 'e' ∨ e = 'E' then
      let sign := readSign rest
      let run := takeRun Char.isDigit sign.rest
      let exponent (value : Option Int) : Taken 0 (e :: rest) (Option (Option Int)) :=
        (sign.followed (run.map fun _ => some value)).behind.loosen
      if run.value.isEmpty then
        .error (if sign.rest.isEmpty then .before (.ended .value) []
          else .atNext .invalidNumber sign.rest)
      else
        match overflow 0 run.value with
        | none =>
          let n := Nat.ofDigitChars 10 run.value 0
          .ok (exponent (some (if sign.value then -n else n)))
        | some after =>
          if sign.value ∨ zero then .ok (exponent none)
          else .error (.before .numberOutOfRange (after ++ run.rest))
    else .ok (.none (e :: rest) none)
where
  /-- The digits after the one that makes the number too large. -/
  overflow (n : Nat) : List Char → Option (List Char)
    | [] => none
    | c :: digits =>
      let next := n * 10 + (c.toNat - '0'.toNat)
      if next ≤ exponentBound then overflow next digits else some digits

/-- The float of the given decimal digits before and after the point, times a power of ten. Digits
that do not fit into 64 bits count by their number only. -/
def approximate (whole fraction : List Char) (exponent : Int) : Option Float :=
  let (n, more) := absorb 0 whole
  let (n, unused) := absorb n fraction
  scale n.toUInt64.toFloat
    (exponent + more.length - (fraction.length - unused.length : Nat))

/-- A number; its sign, if it has one, has been read. A whole number that 64 bits hold stays one,
except for a negative zero. -/
def readNumber (negative : Bool) (s : List Char) : Except Halt (Taken 1 s Number) :=
  match s with
  | [] => .error (.before (.ended .value) [])
  | c :: rest => do
    if !c.isDigit then throw (.atNext .invalidNumber (c :: rest))
    if c = '0' ∧ rest.head?.any Char.isDigit then throw (.atNext .invalidNumber rest)
    let more := takeRun Char.isDigit rest
    let fraction ← readFraction more.rest
    let digits := fraction.value.getD []
    let (n, unused) := absorb 0 (c :: more.value)
    let zero := n = 0 ∧ (absorb n digits).1 = 0
    let exponent ← readExponent zero fraction.rest
    have shorter : exponent.rest.length + 1 ≤ (c :: rest).length := by
      have h1 := more.shorter
      have h2 := fraction.shorter
      have h3 := exponent.shorter
      simp only [List.length_cons]
      omega
    if fraction.value.isNone ∧ exponent.value.isNone ∧ unused.isEmpty ∧
        (!negative ∨ 0 < n ∧ n ≤ UInt64.size / 2) then
      return ⟨.integer (if negative then -n else n), exponent.rest, shorter⟩
    let size := match exponent.value with
      | some none => some 0
      | some (some e) => approximate (c :: more.value) digits e
      | none => approximate (c :: more.value) digits 0
    match size with
    | some x => return ⟨.float (if negative then -x else x), exponent.rest, shorter⟩
    | none => throw (.before .numberOutOfRange exponent.rest)

end FileLease.Json
