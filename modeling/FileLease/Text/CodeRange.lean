import FileLease.Text.Numeral

/-! # Tables of characters

A table is a text of words. Code points are written in hexadecimal digits, a range of them with a
hyphen between the first and the last one. -/
namespace FileLease.Text

structure CodeRange where
  first : Nat
  last : Nat
  deriving DecidableEq, Repr

namespace CodeRange

def contains (r : CodeRange) (c : Char) : Bool :=
  r.first ≤ c.toNat && c.toNat ≤ r.last

def read? (s : List Char) : Option CodeRange :=
  match s.splitOn '-' with
  | [only] => (readHex? only).map fun n => ⟨n, n⟩
  | [first, last] => do return ⟨← readHex? first, ← readHex? last⟩
  | _ => none

end CodeRange

/-- The words of a table, which stand on one or more lines. -/
def tableWords (table : String) : List (List Char) :=
  (table.toList.splitOnP fun c => c = ' ' || c = '\n').filter (! ·.isEmpty)

def readRanges (table : String) : List CodeRange :=
  (tableWords table).filterMap CodeRange.read?

def isIn (ranges : List CodeRange) (c : Char) : Bool :=
  ranges.any (·.contains c)

end FileLease.Text
