import FileLease.Json.Lexeme

/-! # Passing over a JSON value that is not wanted

It may be nested to any depth. Its strings and numbers are checked for their form alone. -/
namespace FileLease.Json
open Text

def skipFraction (s : List Char) : Except Halt (Taken 0 s Unit) :=
  match s with
  | '.' :: rest =>
    let digits := takeRun Char.isDigit rest
    if digits.value.isEmpty then .error (.atNext .invalidNumber rest)
    else .ok (digits.map fun _ => ()).behind.loosen
  | s => .ok (.none s ())

def skipExponent (s : List Char) : Except Halt (Taken 0 s Unit) :=
  match s with
  | [] => .ok (.none [] ())
  | e :: rest =>
    if e = 'e' ∨ e = 'E' then
      let sign := readSign rest
      let run := takeRun Char.isDigit sign.rest
      if run.value.isEmpty then .error (.atNext .invalidNumber sign.rest)
      else .ok (sign.followed (run.map fun _ => ())).behind.loosen
    else .ok (.none (e :: rest) ())

def skipNumber (s : List Char) : Except Halt (Taken 1 s Unit) :=
  match s with
  | [] => .error (.before .invalidNumber [])
  | c :: rest => do
    if !c.isDigit then throw (.atNext .invalidNumber (c :: rest))
    if c = '0' ∧ rest.head?.any Char.isDigit then throw (.atNext .invalidNumber rest)
    let more := takeRun Char.isDigit rest
    let fraction ← skipFraction more.rest
    let exponent ← skipExponent fraction.rest
    return ⟨(), exponent.rest, by
      have h1 := more.shorter
      have h2 := fraction.shorter
      have h3 := exponent.shorter
      simp only [List.length_cons]
      omega⟩

def skipScalar (c : Char) (s : List Char) : Except Halt (Taken 0 s Unit) :=
  if c = 'n' then readLetters ['u', 'l', 'l'] s
  else if c = 't' then readLetters ['r', 'u', 'e'] s
  else if c = 'f' then readLetters ['a', 'l', 's', 'e'] s
  else if c = '-' then (skipNumber s).map (·.loosen)
  else if c.isDigit then
    (skipNumber (c :: s)).map fun t => ⟨(), t.rest, Nat.le_of_succ_le_succ t.shorter⟩
  else if c = '\x22' then
    (readCharacters false s).map fun t => (t.map fun _ => ()).loosen
  else .error (.atNext .valueExpected (c :: s))

/-- A list or an object that is open. -/
inductive Bracket
  | list
  | object

def Bracket.close : Bracket → Char
  | .list => ']'
  | .object => '\x7d'

def Bracket.unfinished : Bracket → Unfinished
  | .list => .list
  | .object => .object

def Bracket.commaExpected : Bracket → Problem
  | .list => .listCommaExpected
  | .object => .objectCommaExpected

inductive Expecting
  | value
  | name
  | afterValue

/-- After the opening or a comma of a list comes a value, of an object a name. -/
def Bracket.expecting : Bracket → Expecting
  | .list => .value
  | .object => .name

/-- Passes over the rest of a value, `within` being the lists and objects that it lies in. -/
def skip (expecting : Expecting) (within : List Bracket) (s : List Char) :
    Except Halt (Taken 0 s Unit) :=
  have hs := skipBlanks_length s
  match expecting with
  | .value =>
    match skipBlanks s, hs with
    | [], _ => .error (.before (.ended .value) [])
    | c :: rest, hs =>
      let opened (b : Bracket) : Except Halt (Taken 0 s Unit) :=
        have hr := skipBlanks_length rest
        match skipBlanks rest, hr with
        | [], _ => .error (.before (.ended b.unfinished) [])
        | d :: inner, hr =>
          if d = b.close then
            have h := Nat.lt_trans (tail_lt hr) (tail_lt hs)
            (skip .afterValue within inner).map (·.on (Nat.le_of_lt h))
          else
            have h := Nat.lt_of_le_of_lt hr (tail_lt hs)
            (skip b.expecting (b :: within) (d :: inner)).map (·.on (Nat.le_of_lt h))
      if c = '[' then opened .list
      else if c = '\x7b' then opened .object
      else
        match skipScalar c rest with
        | .error e => .error e
        | .ok t =>
          have h := Nat.lt_of_le_of_lt t.rest_le (tail_lt hs)
          (skip .afterValue within t.rest).map (·.on (Nat.le_of_lt h))
  | .name =>
    match skipBlanks s, hs with
    | [], _ => .error (.before (.ended .object) [])
    | c :: rest, hs =>
      if c = '\x22' then
        match readCharacters false rest with
        | .error e => .error e
        | .ok name =>
          have hn := skipBlanks_length name.rest
          match skipBlanks name.rest, hn with
          | [], _ => .error (.before (.ended .object) [])
          | d :: value, hn =>
            if d = ':' then
              have h := Nat.lt_trans (Nat.lt_of_lt_of_le (tail_lt hn) name.rest_le) (tail_lt hs)
              (skip .value within value).map (·.on (Nat.le_of_lt h))
            else .error (.atNext .colonExpected (d :: value))
      else .error (.atNext .keyNotString (c :: rest))
  | .afterValue =>
    match within with
    | [] => .ok (.none s ())
    | b :: outer =>
      match skipBlanks s, hs with
      | [], _ => .error (.before (.ended b.unfinished) [])
      | c :: rest, hs =>
        have h := tail_lt hs
        if c = ',' then (skip b.expecting (b :: outer) rest).map (·.on (Nat.le_of_lt h))
        else if c = b.close then (skip .afterValue outer rest).map (·.on (Nat.le_of_lt h))
        else .error (.atNext b.commaExpected (c :: rest))
termination_by s.length

def skipValue (s : List Char) : Except Halt (Taken 0 s Unit) :=
  skip .value [] s

end FileLease.Json
