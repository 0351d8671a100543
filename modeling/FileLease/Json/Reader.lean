import FileLease.Json.Lexeme

/-! # Reading JSON texts

Lists and objects may be nested up to a fixed depth. -/
namespace FileLease.Json
open Text

/-- How many lists and objects may lie in each other. -/
def maxDepth : Nat := 127

def readScalar (c : Char) (s : List Char) : Except Halt (Taken 1 (c :: s) Json) :=
  let word (letters : List Char) (a : Json) : Except Halt (Taken 1 (c :: s) Json) :=
    (readLetters letters s).map fun t => (t.map fun _ => a).behind
  let longer {α : Type} (f : α → Json) (t : Taken 1 s α) : Taken 1 (c :: s) Json :=
    (t.map f).behind
  if c = 'n' then word ['u', 'l', 'l'] .null
  else if c = 't' then word ['r', 'u', 'e'] (.boolean true)
  else if c = 'f' then word ['a', 'l', 's', 'e'] (.boolean false)
  else if c = '-' then (readNumber true s).map (longer .number)
  else if c.isDigit then
    (readNumber false (c :: s)).map fun t => t.map .number
  else if c = '\x22' then (readString s).map (longer .string)
  else .error (.atNext .valueExpected (c :: s))

/-- Whether an item of a list follows; the text continues with it, or after the end of the list. -/
def seekItem (first : Bool) (s : List Char) : Except Halt (Taken 0 s Bool) :=
  have h := skipBlanks_length s
  match hs : skipBlanks s with
  | [] => .error (.before (.ended .list) [])
  | c :: rest =>
    have hc : rest.length + 1 ≤ s.length := by simp only [hs, List.length_cons] at h; exact h
    if c = ']' then .ok ⟨false, rest, by omega⟩
    else if first then .ok ⟨true, c :: rest, by simpa using hc⟩
    else if c = ',' then
      have hr := skipBlanks_length rest
      match skipBlanks rest, hr with
      | [], _ => .error (.before (.ended .value) [])
      | d :: item, hr =>
        if d = ']' then .error (.atNext .trailingComma (d :: item))
        else .ok ⟨true, d :: item, by omega⟩
    else .error (.atNext .listCommaExpected (c :: rest))

/-- Whether a member of an object follows; the text continues within the quotation marks of its
name, or after the end of the object. -/
def seekMember (first : Bool) (s : List Char) : Except Halt (Taken 0 s Bool) :=
  have h := skipBlanks_length s
  match hs : skipBlanks s with
  | [] => .error (.before (.ended .object) [])
  | c :: rest =>
    have hc : rest.length + 1 ≤ s.length := by simp only [hs, List.length_cons] at h; exact h
    if c = '\x7d' then .ok ⟨false, rest, by omega⟩
    else if first then
      if c = '\x22' then .ok ⟨true, rest, by omega⟩
      else .error (.atNext .keyNotString (c :: rest))
    else if c = ',' then
      have hr := skipBlanks_length rest
      match skipBlanks rest, hr with
      | [], _ => .error (.before (.ended .value) [])
      | d :: name, hr =>
        have hd : name.length + 0 ≤ s.length := by simp only [List.length_cons] at hr; omega
        if d = '\x22' then .ok ⟨true, name, hd⟩
        else .error (.atNext (if d = '\x7d' then .trailingComma else .keyNotString) (d :: name))
    else .error (.atNext .objectCommaExpected (c :: rest))

def readColon (s : List Char) : Except Halt (Taken 1 s Unit) :=
  have h := skipBlanks_length s
  match hs : skipBlanks s with
  | [] => .error (.before (.ended .object) [])
  | c :: rest =>
    if c = ':' then .ok ⟨(), rest, by simp only [hs, List.length_cons] at h; exact h⟩
    else .error (.atNext .colonExpected (c :: rest))

/-- The items of a list up to its end, `value` reading one. -/
def readItems (value : (s : List Char) → Except Halt (Taken 1 s Json)) (first : Bool)
    (s : List Char) : Except Halt (Taken 0 s (List Json)) := do
  let next ← seekItem first s
  if next.value then
    let item ← value next.rest
    have := next.shorter
    have := item.shorter
    let others ← readItems value false item.rest
    return ⟨item.value :: others.value, others.rest, by have := others.shorter; omega⟩
  else return next.map fun _ => []
termination_by s.length

/-- The members of an object up to its end, `value` reading the value of one. -/
def readMembers (value : (s : List Char) → Except Halt (Taken 1 s Json)) (first : Bool)
    (s : List Char) : Except Halt (Taken 0 s (List (String × Json))) := do
  let next ← seekMember first s
  if next.value then
    let name ← readString next.rest
    let colon ← readColon name.rest
    let item ← value colon.rest
    have := next.shorter
    have := name.shorter
    have := colon.shorter
    have := item.shorter
    let others ← readMembers value false item.rest
    return ⟨(name.value, item.value) :: others.value, others.rest, by
      have := others.shorter; omega⟩
  else return next.map fun _ => []
termination_by s.length

/-- A value within which `depth` levels of lists and objects are allowed. -/
def readValue (depth : Nat) (s : List Char) : Except Halt (Taken 1 s Json) :=
  have h := skipBlanks_length s
  match skipBlanks s, h with
  | [], _ => .error (.before (.ended .value) [])
  | c :: rest, h =>
    if c = '[' then
      match depth with
      | 0 => .error (.atNext .tooDeep (c :: rest))
      | depth + 1 =>
        (readItems (readValue depth) true rest).map fun t => (t.map .array).behind.on h
    else if c = '\x7b' then
      match depth with
      | 0 => .error (.atNext .tooDeep (c :: rest))
      | depth + 1 =>
        (readMembers (readValue depth) true rest).map fun t => (t.map .object).behind.on h
    else (readScalar c rest).map (·.on h)

/-- What `read` makes of a text, nothing but blanks being allowed after it. -/
def readWhole (read : (s : List Char) → Except Halt (Taken 1 s α)) (text : String) :
    Except Fault α :=
  let s := text.toList
  let result : Except Halt α := do
    let t ← read s
    let rest := skipBlanks t.rest
    unless rest.isEmpty do throw (.atNext .trailingCharacters rest)
    return t.value
  result.mapError (·.fault s)

def ofText (text : String) : Except Fault Json :=
  readWhole (readValue maxDepth) text

end FileLease.Json
