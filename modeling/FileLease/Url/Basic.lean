import FileLease.Url.Address
import FileLease.Url.Path

/-! # URLs of web services -/
namespace FileLease
open Text

inductive Url.Scheme
  | http
  | https
  deriving DecidableEq, Repr

def Url.Scheme.text : Scheme → List Char
  | .http => ['h', 't', 't', 'p']
  | .https => ['h', 't', 't', 'p', 's']

def Url.Scheme.defaultPort : Scheme → UInt16
  | .http => 80
  | .https => 443

inductive Url.Host
  | domain (name : List Char)
  | ipv4 (address : UInt32)
  | ipv6 (pieces : List Nat)
  deriving DecidableEq, Repr

def Url.Host.text : Host → List Char
  | .domain name => name
  | .ipv4 address => ipv4Text address
  | .ipv6 pieces => '[' :: ipv6Text pieces ++ [']']

/-- A URL in its normal form: all parts are encoded as they are written. -/
structure Url where
  scheme : Url.Scheme
  username : List Char
  password : Option (List Char)
  host : Url.Host
  port : Option UInt16
  path : List (List Char)
  query : Option (List Char)
  fragment : Option (List Char)
  deriving DecidableEq, Repr

namespace Url

def userinfoText (u : Url) : List Char :=
  match u.username, u.password with
  | [], none => []
  | name, none => name ++ ['@']
  | name, some password => name ++ ':' :: password ++ ['@']

def portText (u : Url) : List Char :=
  match u.port with
  | none => []
  | some port => ':' :: decimal port.toNat

/-- A part after the mark that it begins with, if it is there. -/
def markedText (mark : Char) : Option (List Char) → List Char
  | none => []
  | some part => mark :: part

def characters (u : Url) : List Char :=
  u.scheme.text ++ [':', '/', '/'] ++ u.userinfoText ++ u.host.text ++ u.portText ++
    pathText u.path ++ markedText '?' u.query ++ markedText '#' u.fragment

def text (u : Url) : String :=
  String.ofList u.characters

/-- Whether a URL has a path that others can be below: a slash follows the colon of its scheme. -/
def canBeBase (u : Url) : Bool :=
  (u.characters.drop (u.scheme.text.length + 1)).head? = some '/'

end Url
end FileLease
