import FileLease.Instant.Basic
import FileLease.Json.Basic
import FileLease.Text.Quoted
import FileLease.Text.Shortest
import FileLease.Text.Taken

/-! # What is wrong with a JSON text -/
namespace FileLease.Json
open Text

inductive Found
  | null
  | boolean (b : Bool)
  | number (n : Number)
  | string (s : String)
  | sequence
  | map

def Found.of : Json → Found
  | .null => .null
  | .boolean b => .boolean b
  | .number n => .number n
  | .string s => .string s
  | .array _ => .sequence
  | .object _ => .map

def Found.describe : Found → String
  | .null => "null"
  | .boolean b => "boolean `" ++ (if b then "true" else "false") ++ "`"
  | .number (.integer n) => "integer `" ++ String.ofList (signed n) ++ "`"
  | .number (.float x) => "floating point `" ++ Text.float x ++ "`"
  | .string s => "string " ++ quoted s
  | .sequence => "sequence"
  | .map => "map"

inductive Mismatch
  | type (found : Found) (expected : String)
  | value (found : Found) (expected : String)
  | length (count : Nat) (expected : String)
  | missing (field : String)
  | duplicate (field : String)
  | date (fault : Instant.Fault)

def Mismatch.message : Mismatch → String
  | .type found expected => "invalid type: " ++ found.describe ++ ", expected " ++ expected
  | .value found expected => "invalid value: " ++ found.describe ++ ", expected " ++ expected
  | .length count expected =>
    "invalid length " ++ String.ofList (decimal count) ++ ", expected " ++ expected
  | .missing field => "missing field `" ++ field ++ "`"
  | .duplicate field => "duplicate field `" ++ field ++ "`"
  | .date fault => fault.message

inductive Unfinished
  | value
  | string
  | list
  | object
  deriving DecidableEq

inductive Problem
  | ended (inside : Unfinished)
  | valueExpected
  | wordExpected
  | colonExpected
  | listCommaExpected
  | objectCommaExpected
  | keyNotString
  | trailingComma
  | trailingCharacters
  | invalidNumber
  | numberOutOfRange
  | invalidEscape
  | loneSurrogate
  | endedEscape
  | controlCharacter
  | tooDeep
  | mismatch (m : Mismatch)

def Problem.message : Problem → String
  | .ended .value => "EOF while parsing a value"
  | .ended .string => "EOF while parsing a string"
  | .ended .list => "EOF while parsing a list"
  | .ended .object => "EOF while parsing an object"
  | .valueExpected => "expected value"
  | .wordExpected => "expected ident"
  | .colonExpected => "expected `:`"
  | .listCommaExpected => "expected `,` or `]`"
  | .objectCommaExpected => "expected `,` or `\x7d`"
  | .keyNotString => "key must be a string"
  | .trailingComma => "trailing comma"
  | .trailingCharacters => "trailing characters"
  | .invalidNumber => "invalid number"
  | .numberOutOfRange => "number out of range"
  | .invalidEscape => "invalid escape"
  | .loneSurrogate => "lone leading surrogate in hex escape"
  | .endedEscape => "unexpected end of hex escape"
  | .controlCharacter => "control character (\\u0000-\\u001F) found while parsing a string"
  | .tooDeep => "recursion limit exceeded"
  | .mismatch m => m.message

/-- A problem and the number of bytes of the text that follow its place. -/
structure Halt where
  problem : Problem
  bytesLeft : Nat

/-- The problem lies in front of the rest `s` of the text. -/
def Halt.before (problem : Problem) (s : List Char) : Halt :=
  ⟨problem, byteLength s⟩

/-- The problem lies after the next byte. -/
def Halt.atNext (problem : Problem) (s : List Char) : Halt :=
  ⟨problem, byteLength s - 1⟩

/-- A line and the number of bytes from its start. -/
structure Position where
  line : Nat
  column : Nat
  deriving DecidableEq

/-- The position a number of bytes after the position `p`, at which the text starts. -/
def Position.advance (p : Position) : List Char → Nat → Position
  | [], _ => p
  | _, 0 => p
  | c :: rest, bytes =>
    if c = '\n' then advance ⟨p.line + 1, 0⟩ rest (bytes - 1)
    else advance ⟨p.line, p.column + min c.utf8Size bytes⟩ rest (bytes - c.utf8Size)

structure Fault where
  problem : Problem
  position : Option Position

def Halt.fault (text : List Char) (h : Halt) : Fault :=
  ⟨h.problem, some (Position.advance ⟨1, 0⟩ text (byteLength text - h.bytesLeft))⟩

def Fault.message (f : Fault) : String :=
  match f.position with
  | none => f.problem.message
  | some p => f.problem.message ++ " at line " ++ String.ofList (decimal p.line) ++ " column " ++
    String.ofList (decimal p.column)

end FileLease.Json
