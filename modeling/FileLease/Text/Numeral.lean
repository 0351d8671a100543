/-! # Numerals: decimal and hexadecimal digits -/
namespace FileLease.Text

def decimal (n : Nat) : List Char :=
  Nat.toDigits 10 n

/-- The decimal digits of `n`, with zeros in front up to `width` digits. -/
def padded (width n : Nat) : List Char :=
  (decimal n).leftpad width '0'

/-- The decimal digits of an integer, after a minus sign if it is negative. -/
def signed : Int → List Char
  | .ofNat n => decimal n
  | .negSucc n => '-' :: decimal (n + 1)

def readDecimal? (s : List Char) : Option Nat :=
  if s.isEmpty || !s.all Char.isDigit then none else some (Nat.ofDigitChars 10 s 0)

/-- The number below `bound` that decimal digits name, a plus sign in front being allowed. -/
def readBelow? (bound : Nat) (s : List Char) : Option Nat :=
  (readDecimal? (if s.head? = some '+' then s.tail else s)).filter (· < bound)

def readUInt32? (s : List Char) : Option UInt32 :=
  (readBelow? UInt32.size s).map UInt32.ofNat

def hexValue? (c : Char) : Option Nat :=
  if '0' ≤ c ∧ c ≤ '9' then some (c.toNat - '0'.toNat)
  else if 'a' ≤ c ∧ c ≤ 'f' then some (c.toNat - 'a'.toNat + 10)
  else if 'A' ≤ c ∧ c ≤ 'F' then some (c.toNat - 'A'.toNat + 10)
  else none

def isHexDigit (c : Char) : Bool :=
  (hexValue? c).isSome

def readHex? (s : List Char) : Option Nat :=
  if s.isEmpty then none
  else (s.mapM hexValue?).map (·.foldl (fun n d => n * 16 + d) 0)

def hexByte (b : UInt8) : List Char :=
  [Nat.digitChar (b.toNat / 16), Nat.digitChar (b.toNat % 16)]

/-- The lower-case hexadecimal digits of `n`, as few as possible. -/
def hex (n : Nat) : List Char :=
  Nat.toDigits 16 n

/-- The upper-case hexadecimal digits of `n`, with zeros in front up to `width` digits. -/
def hexUpper (width n : Nat) : List Char :=
  ((hex n).map Char.toUpper).leftpad width '0'

end FileLease.Text
