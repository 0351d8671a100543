import FileLease.Text.Numeral

/-! # Lease ids: the GUID form and its making from sixteen random bytes -/
namespace FileLease.Guid
open Text

def groups : List Nat := [8, 4, 4, 4, 12]

/-- Groups of 8, 4, 4, 4 and 12 hexadecimal digits of either case, hyphens between them. -/
def isGuid (s : String) : Bool :=
  let parts := s.toList.splitOn '-'
  parts.map List.length == groups && parts.all (·.all isHexDigit)

def readBytes? : List Char → Option (List UInt8)
  | [] => some []
  | [_] => none
  | a :: b :: rest => do
    let high ← hexValue? a
    let low ← hexValue? b
    let more ← readBytes? rest
    return (16 * high + low).toUInt8 :: more

def ungroup? (s : List Char) : Option (List Char) :=
  let parts := s.splitOn '-'
  if parts.map List.length = groups then some parts.flatten else none

/-- What may stand around groups: nothing, braces, or the prefix of a URN. -/
def unwrap? (s : List Char) : Option (List Char) :=
  if s.length = 36 then some s
  else if s.length = 38 ∧ s.head? = some '\x7b' ∧ s.getLast? = some '\x7d' then
    some (s.drop 1).dropLast
  else if s.length = 45 ∧ s.take 9 = ['u', 'r', 'n', ':', 'u', 'u', 'i', 'd', ':'] then
    some (s.drop 9)
  else none

/-- The bytes that a text names: digits alone, or in groups with what may stand around them. -/
def read? (s : String) : Option (List UInt8) :=
  if s.toList.length = 32 then readBytes? s.toList
  else ((unwrap? s.toList).bind ungroup?).bind readBytes?

def cut : List Nat → List Char → List (List Char)
  | [], _ => []
  | n :: ns, s => s.take n :: cut ns (s.drop n)

/-- The bytes with the version nibble set to 4 and the variant bits set to 10. -/
def stamp (bytes : Vector UInt8 16) : Vector UInt8 16 :=
  (bytes.set 6 (bytes[6] &&& 0x0f ||| 0x40)).set 8 (bytes[8] &&& 0x3f ||| 0x80)

def render (bytes : Vector UInt8 16) : String :=
  String.ofList (['-'].intercalate (cut groups (bytes.toList.flatMap hexByte)))

/-- A lease id made from sixteen random bytes, six bits of which are fixed. -/
def ofEntropy (entropy : Vector UInt8 16) : String :=
  render (stamp entropy)

end FileLease.Guid
