import FileLease.Toml.Lexeme
import FileLease.Toml.Tree

/-! # Reading TOML

Arrays and inline tables may be nested up to a fixed depth. -/
namespace FileLease.Toml
open Text

/-- How many arrays and inline tables may lie in each other. -/
def maxDepth : Nat := 79

def isBareKeyChar (c : Char) : Bool :=
  c.isAlphanum || c = '-' || c = '_'

def readSimpleKey? (s : List Char) : Option (Taken 1 s String) :=
  match s with
  | [] => none
  | c :: rest =>
    if c = '\x22' ∨ c = '\'' then
      (readLine? c rest).map fun t => (t.map String.ofList).behind
    else if isBareKeyChar c then
      some ((takeRun isBareKeyChar rest).map fun run => String.ofList (c :: run)).behind
    else none

/-- A mark and the blanks after it. -/
def readSpaced? (mark : Char) (s : List Char) : Option (Taken 1 s Unit) :=
  (readMark? mark s).map fun t => t.extended (skipBlanks t.rest)

/-- A key, its parts separated by dots with blanks around them. -/
def readKey? (s : List Char) : Option (Taken 1 s (List String)) :=
  match readSimpleKey? s with
  | none => none
  | some part =>
    let first := part.extended (skipBlanks part.rest)
    match readSpaced? '.' first.rest with
    | none => some (first.map ([·]))
    | some dot =>
      have := Nat.lt_trans dot.rest_lt first.rest_lt
      (readKey? dot.rest).map fun t => first.followed (dot.followed (t.map (first.value :: ·)))
termination_by s.length

def skipGaps (s : List Char) : Taken 0 s Unit :=
  let blanks := skipBlanks s
  let remark := blanks.followed (skipComment blanks.rest)
  match readNewline? remark.rest with
  | none => if remark.rest.length = blanks.rest.length then blanks else .none s ()
  | some newline =>
    have := Nat.lt_of_lt_of_le newline.rest_lt remark.rest_le
    remark.followed (newline.followed (skipGaps newline.rest))
termination_by s.length

/-- The characters of numbers, dates and words. -/
def isWordChar (c : Char) : Bool :=
  c.isAlphanum || c = '+' || c = '-' || c = '.' || c = ':' || c = '_'

def wordValue? (word : List Char) : Option Node :=
  if word = ['t', 'r', 'u', 'e'] then some (.boolean true)
  else if word = ['f', 'a', 'l', 's', 'e'] then some (.boolean false)
  else match readInteger? word with
    | some n => some (.integer n)
    | none =>
      if isFloat word then some .float
      else if isMoment word then some .date
      else none

/-- A date with a time after a blank, the date having been read. -/
def readTime? (date : Taken 1 s (List Char)) : Option (Taken 1 s Node) := do
  let blank ← readMark? ' ' date.rest
  let time := takeRun isWordChar blank.rest
  if isDate date.value ∧ isZonedTime time.value then
    some ((date.extended (blank.followed time)).map fun _ => .date)
  else none

def readWord? (s : List Char) : Option (Taken 1 s Node) :=
  match s with
  | [] => none
  | c :: rest =>
    if isWordChar c then
      let word := ((takeRun isWordChar rest).map (c :: ·)).behind
      readTime? word <|> (wordValue? word.value).map fun value => word.map fun _ => value
    else none

/-- The items of an array up to its end, `value` reading one. -/
def readItems? (value : (s : List Char) → Option (Taken 1 s Node)) (s : List Char) :
    Option (Taken 1 s (List Node)) :=
  let gap := skipGaps s
  match readMark? ']' gap.rest with
  | some close => some (gap.followed (close.map fun _ => []))
  | none =>
    match value gap.rest with
    | none => none
    | some found =>
      let item := (gap.followed found).extended (skipGaps found.rest)
      match readMark? ']' item.rest with
      | some close => some (item.followed (close.map fun _ => [item.value]))
      | none =>
        match readMark? ',' item.rest with
        | none => none
        | some comma =>
          have := Nat.lt_trans comma.rest_lt item.rest_lt
          (readItems? value comma.rest).map fun t =>
            item.followed (comma.followed (t.map (item.value :: ·)))
termination_by s.length

def readPair (value : (s : List Char) → Option (Taken 1 s Node)) (s : List Char) :
    Option (Taken 1 s (List String × Node)) := do
  let key ← readKey? s
  let equals ← readSpaced? '=' key.rest
  let item ← value equals.rest
  some (key.followed (equals.followed (item.map (key.value, ·))))

/-- The pairs of an inline table up to its end, all on one line. -/
def readPairs? (value : (s : List Char) → Option (Taken 1 s Node)) (entries : Entries)
    (s : List Char) : Option (Taken 1 s Entries) :=
  let blanks := skipBlanks s
  match readPair value blanks.rest with
  | none => none
  | some found =>
    let pair := (blanks.followed found).extended (skipBlanks found.rest)
    match entries.putDotted pair.value.2 pair.value.1 with
    | none => none
    | some entries =>
      match readMark? '\x7d' pair.rest with
      | some close => some (pair.followed (close.map fun _ => entries))
      | none =>
        match readMark? ',' pair.rest with
        | none => none
        | some comma =>
          have := Nat.lt_trans comma.rest_lt pair.rest_lt
          (readPairs? value entries comma.rest).map fun t => pair.followed (comma.followed t)
termination_by s.length

/-- A value within which `depth` levels of arrays and inline tables are allowed. -/
def readValue? (depth : Nat) (s : List Char) : Option (Taken 1 s Node) :=
  match s with
  | [] => none
  | c :: rest =>
    if c = '\x22' ∨ c = '\'' then
      (readText? c rest).map fun t => (t.map .text).behind
    else if c = '[' then
      match depth with
      | 0 => none
      | depth + 1 =>
        (readItems? (readValue? depth) rest).map fun t => (t.map .array).behind
    else if c = '\x7b' then
      match depth with
      | 0 => none
      | depth + 1 =>
        let blanks := skipBlanks rest
        match readMark? '\x7d' blanks.rest with
        | some close => some (blanks.followed (close.map fun _ => .inline [])).behind
        | none => (readPairs? (readValue? depth) [] rest).map fun t => (t.map .inline).behind
    else readWord? (c :: rest)

/-- A document so far, and the path of the table that comes next. -/
structure State where
  root : Entries
  current : List String

/-- The key of a header up to the closing bracket. -/
def readHeader? (s : List Char) : Option (Taken 1 s (List String)) := do
  let blanks := skipBlanks s
  let key ← readKey? blanks.rest
  let close ← readMark? ']' key.rest
  some (blanks.followed (key.extended close))

/-- A line with a header or with a key and a value, without its end. -/
def readStatement? (state : State) (s : List Char) : Option (Taken 1 s State) :=
  match s with
  | '[' :: '[' :: rest => do
    let key ← readHeader? rest
    let last ← key.value.getLast?
    let root ← state.root.change (·.openItem last) key.value.dropLast
    let close ← readMark? ']' key.rest
    some ((key.extended close).map fun key => ⟨root, key⟩).behind.behind
  | '[' :: rest => do
    let key ← readHeader? rest
    let last ← key.value.getLast?
    let root ← state.root.change (·.openTable last) key.value.dropLast
    some (key.map fun key => ⟨root, key⟩).behind
  | s => do
    let pair ← readPair (readValue? maxDepth) s
    let root ← state.root.change (·.putDotted pair.value.2 pair.value.1) state.current
    some (pair.map fun _ => { state with root })

def skipRemark (s : List Char) : Taken 0 s Unit :=
  let blanks := skipBlanks s
  blanks.followed (skipComment blanks.rest)

/-- The document that the rest of a text adds up to. -/
def readRest? (state : State) (s : List Char) : Option Entries :=
  let remark := skipRemark s
  if remark.rest.isEmpty then some state.root
  else match readNewline? remark.rest with
    | some newline =>
      have := Nat.lt_of_lt_of_le newline.rest_lt remark.rest_le
      readRest? state newline.rest
    | none =>
      let blanks := skipBlanks s
      match readStatement? state blanks.rest with
      | none => none
      | some found =>
        let statement := (blanks.followed found).extended (skipRemark found.rest)
        if statement.rest.isEmpty then some statement.value.root
        else match readNewline? statement.rest with
          | none => none
          | some newline =>
            have := Nat.lt_trans newline.rest_lt statement.rest_lt
            readRest? statement.value newline.rest
termination_by s.length

/-- The keys of a TOML text with their values; a byte order mark at the front does not count. -/
def read? (text : String) : Option Entries :=
  let s := text.toList
  readRest? ⟨[], []⟩ (if s.head? = some '\uFEFF' then s.tail else s)

end FileLease.Toml
