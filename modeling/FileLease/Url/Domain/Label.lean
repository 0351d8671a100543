import FileLease.Text.Composed
import FileLease.Text.Punycode
import FileLease.Url.Domain.Direction
import FileLease.Url.Domain.Joining
import FileLease.Url.Domain.Permitted

/-! # Labels: the parts of names between their points -/
namespace FileLease.Url
open Text

def encodedStart : List Char :=
  ['x', 'n', '-', '-']

def isEncoded (label : List Char) : Bool :=
  encodedStart.isPrefixOf label

/-- The longest label in characters, and the longest one when it is encoded. -/
def maxLabelLength : Nat := 1000

def maxEncodedLength : Nat := 2000

def isLabel (label : List Char) : Bool :=
  label.all isPermitted && !isEncoded label && !label.head?.any isMark && joinersFit [] label

/-- What an encoded label stands for; it must have more than ASCII, and be in its only spelling. -/
def decodeLabel? (digits : List Char) : Option (List Char) := do
  if maxEncodedLength < digits.length then none
  let label ← Punycode.decode? digits
  if label.all isAscii ∨ composed label ≠ label then none else some label

/-- The label that a part of a name stands for. -/
def readLabel? (s : List Char) : Option (List Char) := do
  let label ← if isEncoded s then decodeLabel? (s.drop encodedStart.length) else some s
  if isLabel label then some label else none

def writeLabel? (label : List Char) : Option (List Char) :=
  if label.all isAscii then some label
  else if maxLabelLength < label.length then none
  else some (encodedStart ++ Punycode.encode label)

end FileLease.Url
