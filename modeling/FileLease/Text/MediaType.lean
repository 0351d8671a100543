/-! # Parameters of a media type

A media type is read to its end before any of its parameters counts: one that is not written as it
should be has none. -/
namespace FileLease.Text

def isTokenChar (c : Char) : Bool :=
  c.isAlphanum || "!#$%&'*+-.^_`|~".toList.contains c

/-- Where a character of the parameters stands: in a name, in a value as it is or between quotes,
or behind the quotes. -/
inductive Within
  | name (read : List Char)
  | value (name read : List Char)
  | quoted (name read : List Char)
  | behind

/-- The parameters from somewhere within them on. Blanks can stand before a name and behind
quotes. -/
def readParameters? : Within → List Char → Option (List (List Char × List Char))
  | .name [], [] => some []
  | .name [], ' ' :: rest => readParameters? (.name []) rest
  | .name (a :: name), '=' :: rest => readParameters? (.value (a :: name) []) rest
  | .name name, c :: rest =>
    if isTokenChar c then readParameters? (.name (name ++ [c])) rest else none
  | .name _, [] => none
  | .value name read, [] => some [(name, read)]
  | .value name [], '\x22' :: rest => readParameters? (.quoted name []) rest
  | .value name (a :: read), ';' :: rest =>
    (readParameters? (.name []) rest).map ((name, a :: read) :: ·)
  | .value name read, c :: rest =>
    if isTokenChar c then readParameters? (.value name (read ++ [c])) rest else none
  | .quoted name (a :: read), '\x22' :: rest =>
    (readParameters? .behind rest).map ((name, a :: read) :: ·)
  | .quoted name read, c :: rest =>
    if c.toNat < 0x20 then none else readParameters? (.quoted name (read ++ [c])) rest
  | .quoted _ _, [] => none
  | .behind, [] => some []
  | .behind, ';' :: rest => readParameters? (.name []) rest
  | .behind, ' ' :: rest => readParameters? .behind rest
  | .behind, _ :: _ => none

/-- The names and values of the parameters of a media type. -/
def mediaParameters? (s : List Char) : Option (List (List Char × List Char)) :=
  match s.takeWhile isTokenChar, s.dropWhile isTokenChar with
  | _ :: _, '/' :: rest =>
    match rest.takeWhile isTokenChar, rest.dropWhile isTokenChar with
    | _, [] => some []
    | _ :: _, ';' :: parameters => readParameters? (.name []) parameters
    | _, _ => none
  | _, _ => none

end FileLease.Text
