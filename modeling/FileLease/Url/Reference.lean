import FileLease.Url.Reader

/-! # References

A reference is a URI, or the end of one that is completed from the URL of the place it is found at.
It holds nothing but what the grammar of URIs knows, so nothing in it is left out or encoded. -/
namespace FileLease.Url
open Text

/-- The parts of a reference as they are written, but for its fragment. -/
structure Reference where
  scheme : Option (List Char)
  authority : Option (List Char)
  path : List Char
  query : Option (List Char)
  deriving DecidableEq, Repr

/-- Letters, digits and the signs that can stand in all parts of a URI. -/
def isPlain (c : Char) : Bool :=
  c.isAlphanum || "-._~!$&'()*+,;=".toList.contains c

/-- A text of plain characters, encoded bytes and some other characters. -/
def isUriText (other : Char → Bool) : List Char → Bool
  | [] => true
  | '%' :: a :: b :: rest => isHexDigit a && isHexDigit b && isUriText other rest
  | c :: rest => (isPlain c || other c) && isUriText other rest

def isPathChar (c : Char) : Bool :=
  c = ':' || c = '@' || c = '/'

def isQueryChar (c : Char) : Bool :=
  isPathChar c || c = '?'

/-- A host, in which nothing is encoded, and a port. -/
def isHostAndPort (s : List Char) : Bool :=
  let length := hostLength false false s
  let host := s.take length
  !s.isEmpty && ((s.drop length).drop 1).all Char.isDigit &&
    (if host.head? = some '[' then (readBracketed host).isOk else host.all isPlain)

def isAuthority (s : List Char) : Bool :=
  if s.contains '@' then
    isUriText (· = ':') (s.takeWhile (· ≠ '@')) &&
      isHostAndPort ((s.dropWhile (· ≠ '@')).drop 1)
  else isHostAndPort s

/-- The authority in front of a path, if there is one, and the text after it. -/
def splitAuthority (s : List Char) : Option (List Char) × List Char :=
  match s with
  | '/' :: '/' :: rest =>
    let authority := rest.takeWhile (! endsAuthority false ·)
    (some authority, rest.drop authority.length)
  | s => (none, s)

def splitReference (s : List Char) : Reference :=
  let (scheme, rest) := match splitScheme? s with
    | some (scheme, rest) => (some scheme, rest)
    | none => (none, s)
  let (authority, rest) := splitAuthority (rest.takeWhile (· ≠ '#'))
  let path := rest.takeWhile (· ≠ '?')
  ⟨scheme, authority, path, if path = rest then none else some (rest.drop (path.length + 1))⟩

/-- The parts are what they can be. A colon in the first segment would end a scheme. -/
def Reference.isSound (r : Reference) : Bool :=
  r.authority.all isAuthority && isUriText isPathChar r.path &&
    r.query.all (isUriText isQueryChar) &&
    (r.scheme.isSome || r.authority.isSome || !(r.path.takeWhile (· ≠ '/')).contains ':')

def readReference? (s : List Char) : Option Reference :=
  let fragment := (s.dropWhile (· ≠ '#')).drop 1
  if (splitReference s).isSound && isUriText isQueryChar fragment then some (splitReference s)
  else none

/-- What a reference leads to: a web service, another URL, or what is none. -/
inductive Place
  | web (url : Url)
  | other (text : String)
  | faulty
  deriving DecidableEq, Repr

def placeOf (text : String) : Place :=
  match read text with
  | .ok (.web url) => .web url
  | .ok (.other _) => .other text
  | .error _ => .faulty

/-- What a reference leads to from a URL. A scheme alone names no host to go to. -/
def Reference.placeFrom? (base : Url) (r : Reference) : Option Place :=
  match r.authority, r.scheme with
  | some authority, scheme =>
    let start := scheme.getD base.scheme.text ++ [':', '/', '/'] ++ authority
    some (placeOf (String.ofList (start ++ r.path ++ markedText '?' r.query)))
  | none, some _ => none
  | none, none =>
    let tail := r.path ++ markedText '?' r.query
    some <| .web <| match tail with
      | [] => { base with fragment := none }
      | '?' :: _ => { base.withTail [] tail with path := base.path }
      | '/' :: rest => base.withTail [] rest
      | _ => base.withTail base.path.dropLast tail

end FileLease.Url
