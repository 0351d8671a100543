import FileLease.Text.Blank
import FileLease.Text.Numeral
import FileLease.Text.Taken

/-! # Settings in environment variables

The text of a variable may be a whole number, a number with a point, a truth value, a character or a
text in quotation marks, a list or a table; any other text stands for itself. -/
namespace FileLease.Settings
open Text

/-- A value of a setting; those that are neither texts nor whole numbers fit no setting. -/
inductive Entry
  | text (s : String)
  | integer (n : Int)
  | other
  deriving DecidableEq, Repr

namespace Environment

def isBlank (c : Char) : Bool :=
  c = ' ' || c = '\t' || c = '\n' || c = '\x0c' || c = '\r'

/-- Characters that end a value within a list or a table. -/
def isSeparator (c : Char) : Bool :=
  c = ',' || c = '\x7b' || c = '\x7d' || c = '[' || c = ']'

/-- The text after a piece, if it starts with the piece. -/
def after? (piece s : List Char) : Option (List Char) :=
  if piece.isPrefixOf s then some (s.drop piece.length) else none

/-- The length of a text up to a quotation mark that is not escaped. -/
def quotedLength : List Char → Nat
  | [] => 0
  | '\\' :: _ :: rest => 2 + quotedLength rest
  | c :: rest => if c = '\x22' then 0 else 1 + quotedLength rest

def codePoint? (digits : List Char) : Option Char := do
  let n ← readHex? digits
  if n < 0xD800 ∨ 0xDFFF < n ∧ n < 0x110000 then some (Char.ofNat n) else none

/-- A text without its escapes; it must not have other controls than tabs. -/
def unescape (s : List Char) : Option (List Char) :=
  match s with
  | [] => some []
  | '\\' :: c :: rest =>
    let one (d : Char) := (unescape rest).map (d :: ·)
    let point (count : Nat) := do
      if (rest.take count).length ≠ count then none
      let d ← codePoint? (rest.take count)
      (unescape (rest.drop count)).map (d :: ·)
    if c = '\x22' ∨ c = '\\' then one c
    else if c = 'b' then one '\x08'
    else if c = 'f' then one '\x0c'
    else if c = 'n' then one '\n'
    else if c = 'r' then one '\r'
    else if c = 't' then one '\t'
    else if c = 'u' then point 4
    else if c = 'U' then point 8
    else none
  | c :: rest =>
    if c ≠ '\\' ∧ (c = '\t' ∨ 0x20 ≤ c.toNat ∧ c.toNat ≠ 0x7F) then (unescape rest).map (c :: ·)
    else none
termination_by s.length

/-- A number with a point, an exponent being allowed. -/
def isFloat (s : List Char) : Bool :=
  let size := if s.head? = some '+' ∨ s.head? = some '-' then s.tail else s
  let isMark (c : Char) : Bool := c = 'e' || c = 'E'
  let mantissa := size.takeWhile (! isMark ·)
  let exponent := (size.drop mantissa.length).drop 1
  let power := if exponent.head? = some '+' ∨ exponent.head? = some '-' then exponent.tail
    else exponent
  mantissa.contains '.' && 2 ≤ mantissa.length &&
    ((mantissa.erase '.').all Char.isDigit) &&
    (mantissa.length = size.length || (!power.isEmpty && power.all Char.isDigit))

/-- The value of a text without quotation marks and separators. -/
def wordEntry (s : List Char) : Entry :=
  if isFloat s then .other
  else match readBelow? UInt64.size s with
    | some n => .integer n
    | none =>
      match s with
      | '-' :: digits =>
        match (readDecimal? digits).filter (· ≤ UInt64.size / 2) with
        | some n => .integer (-n)
        | none => .text (String.ofList s)
      | s => .text (String.ofList s)

def skipBlanks (s : List Char) : Taken 0 s Unit :=
  (takeRun isBlank s).map fun _ => ()

/-- A text between quotation marks, the first of which has been read. -/
def readQuoted (s : List Char) : Option (Taken 0 s String) := do
  let length := quotedLength s
  let inside ← unescape (s.take length)
  if (s.drop length).head? = some '\x22' then
    some ⟨String.ofList inside, s.drop (length + 1), by simp only [List.length_drop]; omega⟩
  else none

def isKeyChar (c : Char) : Bool :=
  c.isAlphanum || c = '_' || c = '-'

/-- A name, which may be in quotation marks. -/
def readKey (s : List Char) : Option (Taken 1 s Unit) :=
  match s with
  | [] => none
  | c :: rest =>
    if c = '\x22' then (readQuoted rest).map fun t => (t.map fun _ => ()).behind
    else if isKeyChar c then some ((takeRun isKeyChar rest).map fun _ => ()).behind
    else none

def readName (s : List Char) : Option (Taken 0 s Unit) := do
  let blanks := skipBlanks s
  let key ← readKey blanks.rest
  let name := (blanks.followed key).extended (skipBlanks key.rest)
  let equals ← readMark? '=' name.rest
  some (name.followed equals).loosen

inductive Bracket
  | list
  | table

def Bracket.close : Bracket → Char
  | .list => ']'
  | .table => '\x7d'

def readOpening? (s : List Char) : Option (Taken 1 s Bracket) :=
  match s with
  | [] => none
  | c :: _ =>
    if c = '[' then some (.first .list)
    else if c = '\x7b' then some (.first .table)
    else none

/-- A truth value, a text in quotation marks, a character, or a word. -/
def readScalar? (s : List Char) : Option (Taken 0 s Entry) :=
  match s with
  | 't' :: 'r' :: 'u' :: 'e' :: _ => some (Taken.first .other).behind.behind.behind.loosen
  | 'f' :: 'a' :: 'l' :: 's' :: 'e' :: _ =>
    some (Taken.first .other).behind.behind.behind.behind.loosen
  | '\x22' :: rest => (readQuoted rest).map fun t => (t.map .text).behind.loosen
  | '\x27' :: c :: '\x27' :: _ =>
    some (Taken.first (.text (String.ofList [c]))).behind.behind.loosen
  | '\x27' :: _ => none
  | s => some ((takeRun (! isSeparator ·) s).map fun word => wordEntry (strip Text.isBlank word))

mutual

/-- A value and the blanks around it. -/
def readEntry (s : List Char) : Option (Taken 0 s Entry) :=
  let blanks := skipBlanks s
  let padded {n : Nat} (t : Taken n blanks.rest Entry) : Taken 0 s Entry :=
    (blanks.followed (t.extended (skipBlanks t.rest))).loosen
  match readOpening? blanks.rest with
  | some opening =>
    have := Nat.lt_of_lt_of_le opening.rest_lt blanks.rest_le
    (readEntries opening.value opening.rest).map fun t =>
      padded (opening.followed (t.map fun _ => .other))
  | none => (readScalar? blanks.rest).map padded
termination_by 2 * s.length

/-- Values separated by commas, in a table with names in front of them, up to the closing
bracket. -/
def readEntries (b : Bracket) (s : List Char) : Option (Taken 0 s Unit) :=
  match readMark? b.close s with
  | some close => some close.loosen
  | none => do
    let name : Taken 0 s Unit ← match b with
      | .list => some (.none s ())
      | .table => readName s
    have := name.rest_le
    let value ← readEntry name.rest
    let item := name.followed value
    match readMark? ',' item.rest with
    | some comma =>
      have := Nat.lt_of_lt_of_le comma.rest_lt item.rest_le
      (readEntries b comma.rest).map fun t => item.followed (comma.followed t)
    | none => (readMark? b.close item.rest).map fun close => (item.followed close).loosen
termination_by 2 * s.length + 1

end

/-- The value of the text of a variable; a text that cannot be read to its end stands for itself. -/
def entryOf (text : String) : Entry :=
  match readEntry text.toList with
  | some t => if t.rest.isEmpty then t.value else .text text
  | none => .text text

/-- What the names of variables for settings begin with. -/
def start : List Char := ['f', 'i', 'l', 'e', 's', 'h', 'a', 'r', 'e', '_']

/-- The setting that a variable names, as a path of keys. -/
def settingOf? (name : String) : Option (List (List Char)) := do
  let rest ← after? start ((strip Text.isBlank name.toList).map Char.toLower)
  let keys := rest.splitOn '.'
  if keys.any List.isEmpty then none else some keys

/-- The value that variables give to a setting: that of the last one which names it or a key in
it. -/
def lookup (environment : List (String × String)) (setting : String) : Option Entry :=
  environment.reverse.findSome? fun (name, value) =>
    match settingOf? name with
    | some (key :: inner) =>
      if key = setting.toList then some (if inner.isEmpty then entryOf value else .other) else none
    | _ => none

end Environment
end FileLease.Settings
