import FileLease.Url.Domain.Label
import FileLease.Url.Domain.Mapping

/-! # Names of hosts -/
namespace FileLease.Url
open Text

/-- Characters that no name has. -/
def isForbidden (c : Char) : Bool :=
  c.toNat ≤ 0x20 || c.toNat = 0x7F || c = '%' || c = '#' || c = '/' || c = ':' || c = '<' ||
    c = '>' || c = '?' || c = '@' || c = '[' || c = '\\' || c = ']' || c = '^' || c = '|'

/-- A name in ASCII, if it can be one. -/
def checked? (name : List Char) : Option (List Char) :=
  if name.any isForbidden then none else some name

/-- The labels of a name that is not in ASCII or has encoded labels. -/
def readLabels? (s : List Char) : Option (List (List Char)) := do
  let labels ← ((composed (s.flatMap mapChar)).splitOn '.').mapM readLabel?
  if labels.any (·.any (directionOf · |>.isRightward)) ∧ !labels.all followsDirection then none
  else some labels

/-- The form of a name in ASCII and lower case. -/
def domainToAscii? (s : List Char) : Option (List Char) :=
  let plain := s.map Char.toLower
  if s.all isAscii && !(plain.splitOn '.').any isEncoded then checked? plain
  else do
    let labels ← readLabels? s
    checked? (['.'].intercalate (← labels.mapM writeLabel?))

end FileLease.Url
