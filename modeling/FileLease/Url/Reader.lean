import FileLease.Text.Blank
import FileLease.Url.Basic
import FileLease.Url.Domain

/-! # Reading URLs

URLs of other schemes than those of web services are read as far as something can be wrong with
them. -/
namespace FileLease.Url
open Text

inductive Fault
  | noScheme
  | emptyHost
  | invalidPort
  | invalidIpv6
  | invalidIpv4
  | invalidName
  | invalidHostCharacter
  deriving DecidableEq, Repr

def Fault.message : Fault → String
  | .noScheme => "relative URL without a base"
  | .emptyHost => "empty host"
  | .invalidPort => "invalid port number"
  | .invalidIpv6 => "invalid IPv6 address"
  | .invalidIpv4 => "invalid IPv4 address"
  | .invalidName => "invalid international domain name"
  | .invalidHostCharacter => "invalid domain character"

/-- A text without the blanks and controls at its ends and without ignored characters. -/
def clean (s : List Char) : List Char :=
  (strip (·.toNat ≤ 0x20) s).filter (! isIgnored ·)

def isSchemeChar (c : Char) : Bool :=
  c.isAlphanum || c = '+' || c = '-' || c = '.'

/-- The scheme in lower case, and the text after its colon. -/
def splitScheme? (s : List Char) : Option (List Char × List Char) :=
  match s.head?.any Char.isAlpha, s.dropWhile isSchemeChar with
  | true, ':' :: rest => some ((s.takeWhile isSchemeChar).map Char.toLower, rest)
  | _, _ => none

/-- The characters that end the part of a URL that names the host. -/
def endsAuthority (special : Bool) (c : Char) : Bool :=
  c = '/' || c = '?' || c = '#' || (special && c = '\\')

/-- Name and password of a user, and the text after them. -/
structure Userinfo where
  username : List Char
  password : Option (List Char)
  rest : List Char

/-- Everything up to the last `@` is name and password, the first colon separates the two. An empty
password counts as none. -/
def readUserinfo (special : Bool) (s : List Char) : Except Fault Userinfo :=
  let region := s.takeWhile (! endsAuthority special ·)
  let before := (region.reverse.dropWhile (· ≠ '@')).drop 1 |>.reverse
  if !region.contains '@' then .ok ⟨[], none, s⟩
  else
    let rest := s.drop (before.length + 1)
    if before.isEmpty ∧ rest.head?.any (endsAuthority special) then .error .emptyHost
    else
      let username := percentEncode inUserinfoSet (before.takeWhile (· ≠ ':'))
      let password := percentEncode inUserinfoSet ((before.dropWhile (· ≠ ':')).drop 1)
      .ok ⟨username, if password.isEmpty then none else some password, rest⟩

/-- The number of characters that name the host: up to a colon that is not in brackets. -/
def hostLength (special inside : Bool) : List Char → Nat
  | [] => 0
  | c :: rest =>
    if endsAuthority special c || (c = ':' && !inside) then 0
    else 1 + hostLength special (if c = '[' then true else if c = ']' then false else inside) rest

def readBracketed (s : List Char) : Except Fault Host :=
  if s.getLast? = some ']' then
    match readIpv6? (s.drop 1).dropLast with
    | some pieces => .ok (.ipv6 pieces)
    | none => .error .invalidIpv6
  else .error .invalidIpv6

def readHost (s : List Char) : Except Fault Host :=
  if s.head? = some '[' then readBracketed s
  else match (percentDecode? s).bind domainToAscii? with
    | none => .error .invalidName
    | some [] => .error .emptyHost
    | some name =>
      if endsInNumber name then
        match readIpv4? name with
        | some address => .ok (.ipv4 address)
        | none => .error .invalidIpv4
      else .ok (.domain name)

def isForbiddenInOpaque (c : Char) : Bool :=
  c.toNat = 0 || c = ' ' || c = '#' || c = '/' || c = ':' || c = '<' || c = '>' || c = '?' ||
    c = '@' || c = '[' || c = '\\' || c = ']' || c = '^' || c = '|'

def checkOpaqueHost (s : List Char) : Except Fault Unit :=
  if s.head? = some '[' then (readBracketed s).map fun _ => ()
  else if s.any isForbiddenInOpaque then .error .invalidHostCharacter
  else .ok ()

/-- The number of a port, if there is one, and the text after it. -/
def readPort (s : List Char) : Except Fault (Option UInt16 × List Char) :=
  match s with
  | ':' :: after =>
    let digits := after.takeWhile Char.isDigit
    let rest := after.drop digits.length
    let number := Nat.ofDigitChars 10 digits 0
    if 65535 < number ∨ rest.head?.any (! endsAuthority true ·) then .error .invalidPort
    else .ok (if digits.isEmpty then none else some number.toUInt16, rest)
  | s => .ok (none, s)

/-- Checks the part of a URL that names the host, if its scheme is not known. -/
def checkAuthority (s : List Char) : Except Fault Unit := do
  let user ← readUserinfo false s
  let length := hostLength false false user.rest
  checkOpaqueHost (user.rest.take length)
  let rest := user.rest.drop length
  if length = 0 ∧ (rest.head? = some ':' ∨ !user.username.isEmpty ∨ user.password.isSome) then
    throw .emptyHost
  let _ ← readPort rest

/-- Checks the host of a URL of a file; the name of a drive is none. -/
def checkFile (s : List Char) : Except Fault Unit :=
  match s with
  | a :: b :: rest =>
    let host := rest.takeWhile (! endsAuthority true ·)
    if isSlash a && isSlash b && !host.isEmpty && !isDriveLetter host then
      (readHost host).map fun _ => ()
    else .ok ()
  | _ => .ok ()

/-- The URL with the path, the query and the fragment that a text gives; the path goes on from the
segments `done`. -/
def withTail (u : Url) (done : List (List Char)) (s : List Char) : Url :=
  let path := s.takeWhile fun c => c ≠ '?' ∧ c ≠ '#'
  let rest := s.drop path.length
  let query := if rest.head? = some '?' then some (rest.tail.takeWhile (· ≠ '#')) else none
  let rest := rest.dropWhile (· ≠ '#')
  let fragment := if rest.isEmpty then none else some rest.tail
  { u with
    path := pathFrom done path
    query := query.map (percentEncode inQuerySet)
    fragment := fragment.map (percentEncode inFragmentSet) }

/-- A URL after its scheme and the slashes that follow it. -/
def readWeb (scheme : Scheme) (s : List Char) : Except Fault Url := do
  let user ← readUserinfo true s
  let length := hostLength true false user.rest
  if length = 0 then throw .emptyHost
  let host ← readHost (user.rest.take length)
  let (port, rest) ← readPort (user.rest.drop length)
  let url : Url := ⟨scheme, user.username, user.password, host,
    port.filter (· ≠ scheme.defaultPort), [[]], none, none⟩
  return url.withTail [] (if rest.head?.any isSlash then rest.tail else rest)

/-- What a text is: the URL of a web service, or one with another scheme. -/
inductive Reading
  | web (url : Url)
  | other (scheme : List Char)

def read (text : String) : Except Fault Reading :=
  match splitScheme? (clean text.toList) with
  | none => .error .noScheme
  | some (scheme, rest) =>
    match String.ofList scheme with
    | "http" => (readWeb .http (rest.dropWhile isSlash)).map .web
    | "https" => (readWeb .https (rest.dropWhile isSlash)).map .web
    | "ws" | "wss" | "ftp" => (readWeb .http (rest.dropWhile isSlash)).map fun _ => .other scheme
    | "file" => (checkFile rest).map fun _ => .other scheme
    | _ =>
      match rest with
      | '/' :: '/' :: authority => (checkAuthority authority).map fun _ => .other scheme
      | _ => .ok (.other scheme)

end FileLease.Url
