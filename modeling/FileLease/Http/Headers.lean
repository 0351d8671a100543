import FileLease.Call
import FileLease.Instant.Rfc2822

/-! # Headers of a message, and what they say about a lease -/
namespace FileLease.Http
open Text

/-- A header; its value is bytes, which need not be text. -/
structure Header where
  name : String
  value : List UInt8
  deriving DecidableEq, Repr

def Header.ofText (name value : String) : Header :=
  ⟨name, value.toUTF8.toList⟩

/-- The bytes of header texts: those of visible ASCII characters, space and tab. -/
def isTextByte (b : UInt8) : Bool :=
  (32 ≤ b && b < 127) || b == 9

namespace Header

def text? (h : Header) : Option String :=
  if h.value.all isTextByte then some (String.ofList (h.value.map (Char.ofNat ·.toNat))) else none

/-- Names of headers are the same in every case. -/
def named (h : Header) (name : String) : Bool :=
  h.name.toList.map Char.toLower == name.toList.map Char.toLower

end Header

def headerText? (headers : List Header) (name : String) : Option String :=
  (headers.find? (·.named name)).bind Header.text?

def etagName : String := "ETag"
def lastModifiedName : String := "Last-Modified"
def leaseIdName : String := "x-ms-lease-id"
def proposedIdName : String := "x-ms-proposed-lease-id"
def leaseTimeName : String := "x-ms-lease-time"
def errorCodeName : String := "x-ms-error-code"

def requiredText (headers : List Header) (name : String) : Except TransportError String :=
  match headerText? headers name with
  | some text => .ok text
  | none => .error (.missingHeader name)

/-- What the headers of a granted acquire, release or change say. An empty lease id counts as
none. -/
def leaseReply (headers : List Header) : Except TransportError LeaseReply := do
  let etag ← requiredText headers etagName
  let date ← requiredText headers lastModifiedName
  match Instant.ofRfc2822 date with
  | .error _ => throw (.invalidHeader lastModifiedName date)
  | .ok lastModified =>
    return ⟨(headerText? headers leaseIdName).filter (! ·.isEmpty), etag, lastModified⟩

/-- What the headers of a granted break say: the seconds until the lease ends, none being 0. -/
def leaseTime (headers : List Header) : Except TransportError UInt32 :=
  match headerText? headers leaseTimeName with
  | none => .ok 0
  | some text =>
    match readUInt32? (strip isBlank text.toList) with
    | some seconds => .ok seconds
    | none => .error (.invalidHeader leaseTimeName text)

end FileLease.Http
