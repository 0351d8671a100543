import FileLease.Http.Message
import FileLease.Url.Reference

/-! # Sending requests and following redirects -/
namespace FileLease.Http
open Text

/-- What is at the other end: nothing, a server that never answers, or one that answers with the
given replies; none stands for a connection that is closed without an answer. -/
inductive Peer
  | unreachable
  | silent
  | serving (replies : List (Option Reply))

/-- A network, the requests that arrived at the other end, and the seconds spent waiting in vain;
`requestId` names requests. -/
structure Network where
  peer : Peer
  log : List Request
  waited : Nat
  sent : Nat
  requestId : Nat → String

def Network.settle (n : Network) : Network :=
  { n with log := [], waited := 0 }

/-- The reply to a request, which is waited for until a time limit in seconds. If there is none, the
complaint is about the URL `quoted`. -/
def Network.deliver (limit : Nat) (quoted : Url) (r : Request) (n : Network) :
    Except TransportError Reply × Network :=
  let unanswered : TransportError := .request (.unanswered quoted.text)
  match n.peer with
  | .unreachable => (.error unanswered, n)
  | .silent => (.error .timeout, { n with waited := n.waited + limit })
  | .serving replies =>
    let n := { n with log := n.log ++ [r], peer := .serving replies.tail }
    match replies.head?.join with
    | some reply => (.ok reply, n)
    | none => (.error unanswered, n)

def redirectStatuses : List Nat := [301, 302, 303, 307, 308]

def Reply.location? (r : Reply) (base : Url) : Option Url.Place := do
  if r.status ∉ redirectStatuses then none
  let header ← r.headers.find? (·.named "Location")
  let text ← String.fromUTF8? (ByteArray.mk header.value.toArray)
  let reference ← Url.readReference? text.toList
  reference.placeFrom? base

def withoutHeader (name : String) (headers : List Header) : List Header :=
  headers.filter (! ·.named name)

/-- Where a request came from, without name, password and fragment; nothing on the way from a
secure to an open connection. -/
def referer? (source target : Url) : Option Header :=
  if source.scheme = .https ∧ target.scheme = .http then none
  else
    let place : Url := { source with username := [], password := none, fragment := none }
    some (.ofText "referer" place.text)

def portOf (u : Url) : UInt16 :=
  u.port.getD u.scheme.defaultPort

/-- The headers of a request, made anew with a method. -/
def Request.headersFor (r : Request) : Method → List Header
  | .put => r.headers
  | .get => withoutHeader "content-length" r.headers

/-- The request that follows `r` on a redirect, made anew from the `first` one. Only a status of 303
turns it into one that reads; what proves the user's identity does not go from one host to
another. -/
def Request.redirected (first r : Request) (status : Nat) (target : Url) : Request :=
  let method := if status = 303 then .get else r.method
  let headers :=
    if r.url.host = target.host ∧ portOf r.url = portOf target then first.headersFor method
    else withoutHeader "authorization" (first.headersFor method)
  ⟨method, target, match referer? r.url target with
    | some header => withoutHeader "referer" headers ++ [header]
    | none => headers⟩

def maxRedirects : Nat := 10

/-- The reply at the end of a chain of redirects of a limited length, which the request `first` has
begun and `r` goes on with. -/
def Network.follow (limit : Nat) (first : Request) :
    (redirects : Nat) → (r : Request) → Network → Except TransportError Reply × Network
  | redirects, r, n =>
    match n.deliver limit first.url r with
    | (.error e, n) => (.error e, n)
    | (.ok reply, n) =>
      match reply.location? r.url, redirects with
      | none, _ => (.ok reply, n)
      | some .faulty, _ => (.error (.request (.misdirected first.url.text)), n)
      | some _, 0 => (.error (.request (.redirected r.url.text)), n)
      | some (.other text), _ + 1 => (.error (.request (.misdirected text)), n)
      | some (.web target), redirects + 1 =>
        n.follow limit first redirects (first.redirected r reply.status target)

/-- The reply at the end of the redirects of a request. -/
def Network.exchange (limit redirects : Nat) (r : Request) (n : Network) :
    Except TransportError Reply × Network :=
  n.follow limit r redirects r

end FileLease.Http
