import FileLease.Instant.Rfc3339
import FileLease.Json.Reader
import FileLease.Json.Skip

/-! # Reading records of texts and dates from JSON

A record is an object with its fields in any order and possibly with others, or a list of the values
of its fields in their order. -/
namespace FileLease.Json
open Text

/-- What a field holds; an optional one may be missing or null. -/
inductive Content
  | text
  | instant
  | optional (content : Content)

@[reducible] def Content.Value : Content → Type
  | .text => String
  | .instant => Instant
  | .optional content => Option content.Value

def Content.absent : (content : Content) → Option content.Value
  | .text => none
  | .instant => none
  | .optional _ => some none

structure Field where
  name : String
  content : Content

@[reducible] def Values : List Field → Type
  | [] => Unit
  | field :: fields => field.content.Value × Values fields

@[reducible] def Draft : List Field → Type
  | [] => Unit
  | field :: fields => Option field.content.Value × Draft fields

namespace Draft

def empty : (fields : List Field) → Draft fields
  | [] => ()
  | _ :: fields => (none, empty fields)

/-- The place for the value of a name: no field has the name, or the field has a value, or a value
may be put in. -/
inductive Slot (fields : List Field)
  | unknown
  | used
  | free (content : Content) (put : content.Value → Draft fields)

def slot (name : String) : (fields : List Field) → Draft fields → Slot fields
  | [], _ => .unknown
  | field :: fields, (value, others) =>
    if field.name = name then
      if value.isSome then .used else .free field.content fun v => (some v, others)
    else match slot name fields others with
      | .unknown => .unknown
      | .used => .used
      | .free content put => .free content fun v => (value, put v)

/-- All values, unless the value of a field is missing that is not optional. -/
def complete : (fields : List Field) → Draft fields → Except Mismatch (Values fields)
  | [], _ => .ok ()
  | field :: fields, (value, others) =>
    match value <|> field.content.absent with
    | some v => (complete fields others).map fun vs => (v, vs)
    | none => .error (.missing field.name)

end Draft

/-- The complaint about a value that starts with `c` where another one is wanted. -/
def wrongType (expected : String) (c : Char) (rest : List Char) : Halt :=
  if c = '[' then .before (.mismatch (.type .sequence expected)) (c :: rest)
  else if c = '\x7b' then .before (.mismatch (.type .map expected)) (c :: rest)
  else match readScalar c rest with
    | .error e => e
    | .ok t => .before (.mismatch (.type (.of t.value) expected)) t.rest

def readWanted (expected : String) (s : List Char) : Except Halt (Taken 1 s String) :=
  have h := skipBlanks_length s
  match skipBlanks s, h with
  | [], _ => .error (.before (.ended .value) [])
  | c :: rest, h =>
    if c = '\x22' then
      (readString rest).map (·.behind.on h)
    else .error (wrongType expected c rest)

def readInstant (s : List Char) : Except Halt (Taken 1 s Instant) := do
  let t ← readWanted "an RFC 3339 formatted date and time string" s
  match Instant.ofRfc3339 t.value with
  | .ok instant => return t.map fun _ => instant
  | .error fault => throw (.before (.mismatch (.date fault)) t.rest)

def readContent : (content : Content) → (s : List Char) → Except Halt (Taken 1 s content.Value)
  | .text, s => readWanted "a string" s
  | .instant, s => readInstant s
  | .optional content, s =>
    have h := skipBlanks_length s
    match skipBlanks s, h with
    | 'n' :: rest, h =>
      (readLetters ['u', 'l', 'l'] rest).map fun t => (t.map fun _ => none).behind.on h
    | _, _ => (readContent content s).map fun t => t.map some

def readListEnd (s : List Char) : Except Halt (Taken 0 s Unit) :=
  have h := skipBlanks_length s
  match skipBlanks s, h with
  | [], _ => .error (.before (.ended .list) [])
  | c :: rest, h =>
    if c = ']' then .ok ((Taken.first ()).on h).loosen
    else if c = ',' then
      let more := skipBlanks rest
      .error (.atNext (if more.head? = some ']' then .trailingComma else .trailingCharacters) more)
    else .error (.atNext .trailingCharacters (c :: rest))

/-- The values of fields in their order up to the end of the list, `known` being how many came
before; `expected` is what should be there. -/
def readRow (expected : String) (known : Nat) :
    (fields : List Field) → (s : List Char) → Except Halt (Taken 0 s (Values fields))
  | [], s => readListEnd s
  | field :: fields, s => do
    let next ← seekItem (known == 0) s
    unless next.value do throw (.before (.mismatch (.length known expected)) next.rest)
    let value ← readContent field.content next.rest
    let others ← readRow expected (known + 1) fields value.rest
    return ⟨(value.value, others.value), others.rest, by
      have := next.shorter
      have := value.shorter
      have := others.shorter
      omega⟩

/-- The text after the end of an object, if the object ends here. -/
def afterObject (s : List Char) : List Char :=
  let rest := skipBlanks s
  if rest.head? = some '\x7d' then rest.tail else rest

/-- The values of the fields among the members of an object up to its end. -/
def readNamed (fields : List Field) (draft : Draft fields) (first : Bool) (s : List Char) :
    Except Halt (Taken 0 s (Values fields)) := do
  let next ← seekMember first s
  if next.value then
    let name ← readString next.rest
    have h1 := next.shorter
    have h2 := name.shorter
    match draft.slot name.value with
    | .unknown =>
      let colon ← readColon name.rest
      let skipped ← skipValue colon.rest
      have h3 := colon.shorter
      have h4 := skipped.shorter
      let all ← readNamed fields draft false skipped.rest
      return ⟨all.value, all.rest, by have := all.shorter; omega⟩
    | .used => throw (.before (.mismatch (.duplicate name.value)) (afterObject name.rest))
    | .free content put =>
      let colon ← readColon name.rest
      let value ← readContent content colon.rest
      have h3 := colon.shorter
      have h4 := value.shorter
      let all ← readNamed fields (put value.value) false value.rest
      return ⟨all.value, all.rest, by have := all.shorter; omega⟩
  else
    match draft.complete with
    | .ok values => return next.map fun _ => values
    | .error m => throw (.before (.mismatch m) next.rest)
termination_by s.length

/-- A record with the given name and fields. -/
def readRecord (name : String) (fields : List Field) (s : List Char) :
    Except Halt (Taken 1 s (Values fields)) :=
  let expected := "struct " ++ name
  have h := skipBlanks_length s
  match skipBlanks s, h with
  | [], _ => .error (.before (.ended .value) [])
  | c :: rest, h =>
    let longer (t : Taken 0 rest (Values fields)) : Taken 1 s (Values fields) :=
      t.behind.on h
    if c = '[' then
      let size := String.ofList (decimal fields.length)
      (readRow (expected ++ " with " ++ size ++ " elements") 0 fields rest).map longer
    else if c = '\x7b' then (readNamed fields (.empty fields) true rest).map longer
    else .error (wrongType expected c rest)

end FileLease.Json
