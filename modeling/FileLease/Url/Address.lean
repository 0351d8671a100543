import FileLease.Text.Numeral

/-! # Numeric addresses of hosts -/
namespace FileLease.Url
open Text

def readBase? (base : Nat) (s : List Char) : Option Nat :=
  if s.all fun c => (hexValue? c).any (· < base) then
    some (s.foldl (fun n c => n * base + (hexValue? c).getD 0) 0)
  else none

/-- A number as parts of addresses are written: hexadecimal after `0x`, octal after `0`, else
decimal; `0x` alone is zero. -/
def readPart? (s : List Char) : Option Nat :=
  match s with
  | [] => none
  | '0' :: 'x' :: rest => readBase? 16 rest
  | '0' :: 'X' :: rest => readBase? 16 rest
  | ['0'] => some 0
  | '0' :: rest => readBase? 8 rest
  | s => readBase? 10 s

/-- The parts of a name between points; a point at the end does not count. -/
def nameParts (s : List Char) : List (List Char) :=
  let parts := s.splitOn '.'
  if parts.getLast? = some [] then parts.dropLast else parts

/-- A name whose last part is a number is taken for an address. -/
def endsInNumber (s : List Char) : Bool :=
  match (nameParts s).getLast? with
  | none => false
  | some last => (!last.isEmpty && last.all Char.isDigit) || (readPart? last).isSome

/-- The address that one to four parts name; the last part fills what the others leave. -/
def readIpv4? (s : List Char) : Option UInt32 := do
  let numbers ← (nameParts s).mapM readPart?
  let last ← numbers.getLast?
  let front := numbers.dropLast
  if 3 < front.length ∨ Nat.pow 256 (4 - front.length) ≤ last ∨ front.any (255 < ·) then none
  else
    let value := front.foldl (fun n a => n * 256 + a) 0
    some (value * Nat.pow 256 (4 - front.length) + last).toUInt32

def ipv4Text (address : UInt32) : List Char :=
  let n := address.toNat
  ['.'].intercalate
    ([n / 0x1000000, n / 0x10000 % 0x100, n / 0x100 % 0x100, n % 0x100].map decimal)

/-- Four decimal numbers below 256 with points between them, as two pieces of an address. -/
def readQuad? (s : List Char) : Option (List Nat) := do
  let numbers ← (s.splitOn '.').mapM fun part =>
    if part.length ≤ 1 ∨ part.head? ≠ some '0' then (readDecimal? part).filter (· < 256) else none
  match numbers with
  | [a, b, c, d] => some [a * 0x100 + b, c * 0x100 + d]
  | _ => none

/-- Up to eight pieces of four hexadecimal digits with colons between them, `count` having been read
before. A second colon stands for pieces that are zero: one is put there, and its place is given; it
is `gap` if it has been read before. The last two pieces may be four decimal numbers. -/
def readPieces? (count : Nat) (gap : Option Nat) (s : List Char) :
    Option (List Nat × Option Nat) :=
  match s with
  | [] => some ([], gap)
  | ':' :: rest =>
    if count < 8 ∧ gap.isNone then
      (readPieces? (count + 1) (some (count + 1)) rest).map fun (pieces, gap) => (0 :: pieces, gap)
    else none
  | c :: rest =>
    let digits := ((c :: rest).take 4).takeWhile isHexDigit
    let value := (readHex? digits).getD 0
    if 8 ≤ count then none
    else match h : (c :: rest).drop digits.length with
      | [] => some ([value], gap)
      | '.' :: _ =>
        if digits.isEmpty ∨ 6 < count then none else (readQuad? (c :: rest)).map (·, gap)
      | ':' :: after =>
        have : after.length < (c :: rest).length := by
          have := congrArg List.length h
          simp only [List.length_drop, List.length_cons] at this ⊢
          omega
        if after.isEmpty then none
        else (readPieces? (count + 1) gap after).map fun (pieces, gap) => (value :: pieces, gap)
      | _ => none
termination_by s.length
decreasing_by all_goals (simp only [List.length_cons] at *; omega)

def readIpv6? (s : List Char) : Option (List Nat) := do
  let (pieces, gap) ← match s with
    | ':' :: ':' :: rest =>
    (readPieces? 1 (some 1) rest).map fun (pieces, gap) => (0 :: pieces, gap)
    | ':' :: _ => none
    | [] => none
    | s => readPieces? 0 none s
  match gap with
  | some place =>
    if pieces.length ≤ 8 then
      some (pieces.take place ++ List.replicate (8 - pieces.length) 0 ++ pieces.drop place)
    else none
  | none => if pieces.length = 8 then some pieces else none

def leadingZeros (pieces : List Nat) : Nat :=
  (pieces.takeWhile (· = 0)).length

/-- The first longest run of zeros of two pieces at least: its place and its length. -/
def longestZeros (pieces : List Nat) : Option (Nat × Nat) :=
  let runs := (List.range pieces.length).map fun i => (i, leadingZeros (pieces.drop i))
  let longest := (runs.map (·.2)).foldl max 0
  if longest < 2 then none else runs.find? (·.2 = longest)

def colonText (pieces : List Nat) : List Char :=
  [':'].intercalate (pieces.map hex)

/-- The text of an address, the longest run of zeros being left out. -/
def ipv6Text (pieces : List Nat) : List Char :=
  match longestZeros pieces with
  | none => colonText pieces
  | some (place, length) =>
    colonText (pieces.take place) ++ [':', ':'] ++ colonText (pieces.drop (place + length))

end FileLease.Url
