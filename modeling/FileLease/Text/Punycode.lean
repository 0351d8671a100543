import FileLease.Text.Numeral

/-! # Punycode: texts in letters, digits and hyphens

The characters of ASCII come first. The others are inserted in the order of their code points; a
number for each tells how many places and code points are passed over. -/
namespace FileLease.Text.Punycode

def base : Nat := 36

def firstCode : Nat := 0x80

def firstBias : Nat := 72

/-- Numbers stay below this bound. -/
def bound : Nat := UInt32.size

def digitChar (d : Nat) : Char :=
  if d < 26 then Char.ofNat ('a'.toNat + d) else Char.ofNat ('0'.toNat + (d - 26))

def digitValue? (c : Char) : Option Nat :=
  if 'a' ≤ c ∧ c ≤ 'z' then some (c.toNat - 'a'.toNat)
  else if 'A' ≤ c ∧ c ≤ 'Z' then some (c.toNat - 'A'.toNat)
  else if '0' ≤ c ∧ c ≤ '9' then some (c.toNat - '0'.toNat + 26)
  else none

/-- A digit below the threshold of its column is the last one of a number. -/
def threshold (column bias : Nat) : Nat :=
  if column ≤ bias then 1 else if bias + 26 ≤ column then 26 else column - bias

theorem threshold_pos (column bias : Nat) : 0 < threshold column bias := by
  unfold threshold
  split
  · omega
  · split <;> omega

/-- How often a number is divided until it is small, and what is left of it. -/
def shrink (column delta : Nat) : Nat × Nat :=
  if 455 < delta then shrink (column + base) (delta / 35) else (column, delta)
termination_by delta
decreasing_by omega

/-- The bias after a number; `count` characters have been placed. -/
def adapt (delta count : Nat) (isFirst : Bool) : Nat :=
  let delta := if isFirst then delta / 700 else delta / 2
  let (column, delta) := shrink 0 (delta + delta / count)
  column + base * delta / (delta + 38)

def digits (bias column n : Nat) : List Char :=
  let t := threshold column bias
  if n < t then [digitChar n]
  else digitChar (t + (n - t) % (base - t)) :: digits bias (column + base) ((n - t) / (base - t))
termination_by n
decreasing_by
  have := threshold_pos column bias
  have := Nat.div_le_self (n - threshold column bias) (base - threshold column bias)
  omega

/-- What has been written; `delta` places were passed over since the last number, and `count`
characters have been placed. -/
structure Encoding where
  written : List Char
  delta : Nat
  bias : Nat
  count : Nat

/-- Passes a character of the text while those of one code point are placed. -/
def Encoding.pass (code first : Nat) (e : Encoding) (c : Char) : Encoding :=
  if c.toNat < code then { e with delta := e.delta + 1 }
  else if c.toNat = code then
    ⟨e.written ++ digits e.bias base e.delta, 0, adapt e.delta (e.count + 1) (e.count = first),
      e.count + 1⟩
  else e

/-- Places the characters of the given code points, which rise and are not below `from_`. -/
def encodeCodes (s : List Char) (first : Nat) : (from_ : Nat) → List Nat → Encoding → Encoding
  | _, [], e => e
  | from_, code :: rest, e =>
    let e := { e with delta := e.delta + (code - from_) * (e.count + 1) }
    let e := s.foldl (·.pass code first) e
    encodeCodes s first (code + 1) rest { e with delta := e.delta + 1 }

def encode (s : List Char) : List Char :=
  let plain := s.filter (·.toNat < firstCode)
  let codes := ((s.map Char.toNat).filter (firstCode ≤ ·)).mergeSort.eraseDups
  let encoding := encodeCodes s plain.length firstCode codes ⟨[], 0, firstBias, plain.length⟩
  plain ++ (if plain.isEmpty then [] else ['-']) ++ encoding.written

/-- What has been read. The next character has at least the given code point and comes after the
given place; `sum`, `weight` and `column` belong to the number that is being read. -/
structure Decoding where
  text : List Char
  code : Nat
  place : Nat
  bias : Nat
  sum : Nat
  weight : Nat
  column : Nat

def Decoding.start (plain : List Char) : Decoding :=
  ⟨plain, firstCode, 0, firstBias, 0, 1, base⟩

/-- The character that a finished number stands for, in its place. -/
def Decoding.insert (d : Decoding) (sum : Nat) : Option Decoding :=
  let count := d.text.length + 1
  let code := d.code + sum / count
  let place := sum % count
  if code < 0xD800 ∨ 0xDFFF < code ∧ code < 0x110000 then
    some ⟨d.text.take place ++ Char.ofNat code :: d.text.drop place, code, place + 1,
      adapt (sum - d.place) count (d.place = 0 ∧ d.code = firstCode), place + 1, 1, base⟩
  else none

/-- Reads a digit. -/
def Decoding.pass (d : Decoding) (c : Char) : Option Decoding := do
  let digit ← digitValue? c
  let sum := d.sum + digit * d.weight
  let t := threshold d.column d.bias
  if bound ≤ sum then none
  else if digit < t then d.insert sum
  else if bound ≤ d.weight * (base - t) then none
  else some { d with sum, weight := d.weight * (base - t), column := d.column + base }

/-- The text that was encoded. A hyphen divides the characters of ASCII from the digits if there are
such characters. -/
def decode? (s : List Char) : Option (List Char) := do
  let plain := ((s.reverse.dropWhile (· ≠ '-')).drop 1).reverse
  let numbers := if plain.isEmpty then s else s.drop (plain.length + 1)
  let d ← numbers.foldlM Decoding.pass (.start plain)
  if d.column = base then some d.text else none

end FileLease.Text.Punycode
