import FileLease.Json.Basic
import FileLease.Text.Numeral
import FileLease.Text.Shortest

/-! # JSON texts of values -/
namespace FileLease.Json
open Text

def escaped (c : Char) : List Char :=
  if c = '\x22' then ['\\', '\x22']
  else if c = '\\' then ['\\', '\\']
  else if c.toNat = 0x08 then ['\\', 'b']
  else if c = '\t' then ['\\', 't']
  else if c = '\n' then ['\\', 'n']
  else if c.toNat = 0x0c then ['\\', 'f']
  else if c = '\r' then ['\\', 'r']
  else if c.toNat < 0x20 then ['\\', 'u', '0', '0'] ++ hexByte c.toNat.toUInt8
  else [c]

def writeString (s : String) : List Char :=
  '\x22' :: s.toList.flatMap escaped ++ ['\x22']

def writeNumber : Number → List Char
  | .integer n => signed n
  | .float x => (Text.float x).toList

/-- Pieces between brackets, commas between them. -/
def enclose (left right : Char) (pieces : List (List Char)) : List Char :=
  left :: [','].intercalate pieces ++ [right]

mutual

def write : Json → List Char
  | .null => ['n', 'u', 'l', 'l']
  | .boolean true => ['t', 'r', 'u', 'e']
  | .boolean false => ['f', 'a', 'l', 's', 'e']
  | .number n => writeNumber n
  | .string s => writeString s
  | .array items => enclose '[' ']' (writeItems items)
  | .object members => enclose '\x7b' '\x7d' (writeMembers members)

def writeItems : List Json → List (List Char)
  | [] => []
  | a :: rest => write a :: writeItems rest

def writeMembers : List (String × Json) → List (List Char)
  | [] => []
  | (name, a) :: rest => (writeString name ++ ':' :: write a) :: writeMembers rest

end

def compact (a : Json) : String :=
  String.ofList (write a)

def newLine (depth : Nat) : List Char :=
  '\n' :: List.replicate (2 * depth) ' '

/-- Pieces between brackets, each on a line of its own. -/
def encloseLines (left right : Char) (depth : Nat) (pieces : List (List Char)) : List Char :=
  if pieces.isEmpty then [left, right]
  else left :: [','].intercalate (pieces.map (newLine (depth + 1) ++ ·)) ++ newLine depth ++ [right]

mutual

/-- The text of a value over several lines, two blanks a level; the first line has no indent. -/
def writeLines (depth : Nat) : Json → List Char
  | .array items => encloseLines '[' ']' depth (writeItemLines (depth + 1) items)
  | .object members => encloseLines '\x7b' '\x7d' depth (writeMemberLines (depth + 1) members)
  | .null => write .null
  | .boolean b => write (.boolean b)
  | .number n => write (.number n)
  | .string s => write (.string s)

def writeItemLines (depth : Nat) : List Json → List (List Char)
  | [] => []
  | a :: rest => writeLines depth a :: writeItemLines depth rest

def writeMemberLines (depth : Nat) : List (String × Json) → List (List Char)
  | [] => []
  | (name, a) :: rest =>
    (writeString name ++ ':' :: ' ' :: writeLines depth a) :: writeMemberLines depth rest

end

def pretty (a : Json) : String :=
  String.ofList (writeLines 0 a)

end FileLease.Json
