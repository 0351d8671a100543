import FileLease.Text.Numeral

/-! # Percent encoding -/
namespace FileLease.Url
open Text

/-- Controls and all characters beyond ASCII, which are encoded everywhere. -/
def isControl (c : Char) : Bool :=
  c.toNat < 0x20 || 0x7F ≤ c.toNat

def inFragmentSet (c : Char) : Bool :=
  isControl c || c = ' ' || c = '\x22' || c = '<' || c = '>' || c = '\x60'

def inPathSet (c : Char) : Bool :=
  inFragmentSet c || c = '#' || c = '?' || c = '\x7b' || c = '\x7d'

def inSegmentSet (c : Char) : Bool :=
  inPathSet c || c = '/' || c = '%' || c = '\\'

def inUserinfoSet (c : Char) : Bool :=
  inPathSet c || c = '/' || c = ':' || c = ';' || c = '=' || c = '@' || c = '[' || c = '\\' ||
    c = ']' || c = '^' || c = '|'

def inQuerySet (c : Char) : Bool :=
  isControl c || c = ' ' || c = '\x22' || c = '#' || c = '<' || c = '>' || c = '\''

/-- A percent sign and the two upper-case hexadecimal digits of a byte. -/
def encodeByte (b : UInt8) : List Char :=
  '%' :: hexUpper 2 b.toNat

def encodeChar (c : Char) : List Char :=
  (String.utf8EncodeChar c).flatMap encodeByte

def percentEncode (set : Char → Bool) (s : List Char) : List Char :=
  s.flatMap fun c => if set c then encodeChar c else [c]

def digitOfByte? (b : UInt8) : Option Nat :=
  hexValue? (Char.ofNat b.toNat)

/-- Bytes with what is percent encoded decoded; a percent sign without two digits stays. -/
def decodeBytes : List UInt8 → List UInt8
  | 37 :: a :: b :: rest =>
    match digitOfByte? a, digitOfByte? b with
    | some m, some n => (m * 16 + n).toUInt8 :: decodeBytes rest
    | _, _ => 37 :: decodeBytes (a :: b :: rest)
  | b :: rest => b :: decodeBytes rest
  | [] => []

/-- A text with what is percent encoded decoded, if the bytes are UTF-8. -/
def percentDecode? (s : List Char) : Option (List Char) :=
  (String.fromUTF8? (ByteArray.mk (decodeBytes (s.flatMap String.utf8EncodeChar)).toArray)).map
    String.toList

end FileLease.Url
