import FileLease.Text.Blank
import FileLease.Text.ByteSet
import FileLease.Text.MediaType

/-! # The text of a body in the character set that is declared for it

Known are UTF-8, UTF-16 and the sets with a byte for each character. UTF-8 is taken for all others,
as it is for the East Asian sets whose characters have two bytes or more. -/
namespace FileLease.Text

/-- What stands for bytes that are no character. -/
def replacement : Char := '\uFFFD'

/-- A character of several bytes in the making: the value so far, how many bytes are to come, and
the bounds of the next one. -/
structure Pending where
  value : Nat
  needed : Nat
  low : Nat
  high : Nat

/-- What the first byte of a character gives. -/
def startCharacter (b : UInt8) : List Char × Option Pending :=
  let n := b.toNat
  if n < 0x80 then ([Char.ofNat n], none)
  else if 0xC2 ≤ n ∧ n ≤ 0xDF then ([], some ⟨n - 0xC0, 1, 0x80, 0xBF⟩)
  else if 0xE0 ≤ n ∧ n ≤ 0xEF then
    ([], some ⟨n - 0xE0, 2, if n = 0xE0 then 0xA0 else 0x80, if n = 0xED then 0x9F else 0xBF⟩)
  else if 0xF0 ≤ n ∧ n ≤ 0xF4 then
    ([], some ⟨n - 0xF0, 3, if n = 0xF0 then 0x90 else 0x80, if n = 0xF4 then 0x8F else 0xBF⟩)
  else ([replacement], none)

/-- The characters of UTF-8; every longest start of a character that is not completed is
replaced. -/
def decodeUtf8 : Option Pending → List UInt8 → List Char
  | none, [] => []
  | some _, [] => [replacement]
  | none, b :: rest =>
    let (out, pending) := startCharacter b
    out ++ decodeUtf8 pending rest
  | some p, b :: rest =>
    if p.low ≤ b.toNat ∧ b.toNat ≤ p.high then
      let value := p.value * 64 + b.toNat % 64
      if p.needed = 1 then Char.ofNat value :: decodeUtf8 none rest
      else decodeUtf8 (some ⟨value, p.needed - 1, 0x80, 0xBF⟩) rest
    else
      let (out, pending) := startCharacter b
      replacement :: out ++ decodeUtf8 pending rest

/-- The characters of 16-bit units, `leading` being a first half of a pair. -/
def decodeUnits : Option Nat → List Nat → List Char
  | none, [] => []
  | some _, [] => [replacement]
  | leading, u :: rest =>
    if 0xDC00 ≤ u ∧ u ≤ 0xDFFF then
      match leading with
      | some l =>
      Char.ofNat ((l - 0xD800) * 0x400 + (u - 0xDC00) + 0x10000) :: decodeUnits none rest
      | none => replacement :: decodeUnits none rest
    else
      let lost := if leading.isSome then [replacement] else []
      if 0xD800 ≤ u ∧ u ≤ 0xDBFF then lost ++ decodeUnits (some u) rest
      else lost ++ Char.ofNat u :: decodeUnits none rest

/-- The 16-bit units of bytes; an odd last byte counts as half of a pair. -/
def unitsOf (unit : UInt8 → UInt8 → Nat) : List UInt8 → List Nat
  | a :: b :: rest => unit a b :: unitsOf unit rest
  | [_] => [0xD800]
  | [] => []

def littleUnit (a b : UInt8) : Nat := b.toNat * 256 + a.toNat
def bigUnit (a b : UInt8) : Nat := a.toNat * 256 + b.toNat

def decodeSingle (set : ByteSet) (bytes : List UInt8) : List Char :=
  let upper := set.characters
  bytes.map fun b =>
    if b.toNat < 0x80 then Char.ofNat b.toNat else upper.getD (b.toNat - 0x80) replacement

/-- How bytes stand for characters. A body that is `replaced` is not read at all. -/
inductive Charset
  | utf8
  | utf16 (unit : UInt8 → UInt8 → Nat)
  | single (set : ByteSet)
  | replaced

def littleLabels : List String :=
  ["utf-16", "utf-16le", "unicode", "ucs-2", "iso-10646-ucs-2", "csunicode", "unicodefeff"]

def bigLabels : List String := ["utf-16be", "unicodefffe"]

/-- Labels of sets in which other texts can be hidden. -/
def replacedLabels : List String :=
  ["csiso2022kr", "hz-gb-2312", "iso-2022-cn", "iso-2022-cn-ext", "iso-2022-kr", "replacement"]

def charsetOfLabel (label : String) : Charset :=
  if label ∈ littleLabels then .utf16 littleUnit
  else if label ∈ bigLabels then .utf16 bigUnit
  else if label ∈ replacedLabels then .replaced
  else match byteSets.find? (·.isNamed label) with
    | some set => .single set
    | none => .utf8

/-- The label that a content type gives for its character set, in lower case. -/
def charsetLabel? (contentType : String) : Option String := do
  let parameters ← mediaParameters? contentType.toList
  let (_, value) ← parameters.find? fun (name, _) => name.map Char.toLower = "charset".toList
  String.ofList ((strip isBlank value).map Char.toLower)

def decodeAs (charset : Charset) (bytes : List UInt8) : List Char :=
  match charset with
  | .utf8 => decodeUtf8 none bytes
  | .utf16 unit => decodeUnits none (unitsOf unit bytes)
  | .single set => decodeSingle set bytes
  | .replaced => if bytes.isEmpty then [] else [replacement]

/-- The text of a body. A byte order mark counts more than the declared character set. -/
def decodeBody (contentType : Option String) (bytes : List UInt8) : List Char :=
  match bytes with
  | 0xEF :: 0xBB :: 0xBF :: rest => decodeUtf8 none rest
  | 0xFF :: 0xFE :: rest => decodeAs (.utf16 littleUnit) rest
  | 0xFE :: 0xFF :: rest => decodeAs (.utf16 bigUnit) rest
  | bytes => decodeAs (((contentType.bind charsetLabel?).map charsetOfLabel).getD .utf8) bytes

end FileLease.Text
