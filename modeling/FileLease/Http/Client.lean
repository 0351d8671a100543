import FileLease.Http.Network
import FileLease.Http.Refusal
import FileLease.Release
import FileLease.Settings.Basic
import FileLease.Text.Base64
import FileLease.Url.Form

/-! # The lease service over HTTP -/
namespace FileLease.Http
open Text

structure Client where
  serviceUrl : Url
  sasToken : Option (List Char)
  apiVersion : String
  requestTimeout : UInt64
  userAgent : String

/-- The characters that a header can be sent with: no controls but tabs. -/
def isHeaderText (s : String) : Bool :=
  s.toList.all fun c => (0x20 ≤ c.toNat && c.toNat ≠ 0x7F) || c = '\t'

namespace Client

/-- The client for settings that can be used; question marks in front of the token do not count. -/
def ofSettings (s : Settings) : Except Failure Client := do
  let serviceUrl ← s.checked.mapError .config
  let userAgent := Release.userAgent s.userAgentSuffix
  unless isHeaderText userAgent do throw (.transport (.request .unbuildable))
  let token := (s.sasToken.map fun t => t.toList.dropWhile (· = '?')).filter (! ·.isEmpty)
  return ⟨serviceUrl, token, s.apiVersion, s.requestTimeout, userAgent⟩

/-- The timeout of a call that is not zero. -/
def positive? (timeout : Option UInt32) : Option UInt32 :=
  timeout.filter (0 < ·)

def filePath (c : Client) (path : SharePath) : List (List Char) :=
  let segments := path.segments.filter (! ·.isEmpty)
  (segments.map String.toList).foldl Url.pushSegment
    (Url.pushSegment (Url.popEmpty c.serviceUrl.path) path.share.toList)

/-- The query of lease calls without a token: that of the service, the component and the timeout. -/
def timedQuery (c : Client) (timeout : Option UInt32) : List Char :=
  let query := Url.appendPair c.serviceUrl.query "comp" "lease"
  match positive? timeout with
  | some seconds => Url.appendPair (some query) "timeout" (String.ofList (decimal seconds.toNat))
  | none => query

/-- The query of lease calls, with the token at its end. -/
def leaseQuery (c : Client) (timeout : Option UInt32) : List Char :=
  match c.sasToken with
  | some token =>
    Url.percentEncode Url.inQuerySet
      ((c.timedQuery timeout ++ '&' :: token).filter (! Url.isIgnored ·))
  | none => c.timedQuery timeout

def leaseUrl (c : Client) (path : SharePath) (timeout : Option UInt32) : Url :=
  { c.serviceUrl with path := c.filePath path, query := some (c.leaseQuery timeout) }

/-- The URL of the lease of a file, unless nothing can be below the URL of the service. -/
def checkedLeaseUrl (c : Client) (path : SharePath) (timeout : Option UInt32) :
    Except TransportError Url :=
  if c.serviceUrl.canBeBase then .ok (c.leaseUrl path timeout)
  else .error (.invalidRequest ("account url " ++ c.serviceUrl.text ++ " cannot be a base"))

def callHeaders : Call → List (String × String)
  | .acquire _ _ duration proposed =>
    [("x-ms-lease-duration", duration.text), (proposedIdName, proposed)]
  | .release _ leaseId _ => [(leaseIdName, leaseId)]
  | .change _ leaseId proposed _ => [(leaseIdName, leaseId), (proposedIdName, proposed)]
  | .break _ _ => []

/-- Name and password in a URL become a header. A password that is no text counts as none. -/
def authorization (url : Url) : List (String × String) :=
  match Url.percentDecode? url.username, url.password.bind Url.percentDecode? with
  | none, _ => []
  | some [], none => []
  | some name, password =>
    let pair := String.ofList (name ++ ':' :: password.getD [])
    [("authorization", "Basic " ++ String.ofList (base64 pair.toUTF8.toList))]

def headers (c : Client) (call : Call) (requestId : String) : List (String × String) :=
  [("user-agent", c.userAgent), ("x-ms-lease-action", call.action), ("x-ms-version", c.apiVersion),
    ("x-ms-client-request-id", requestId), ("content-length", "0")] ++ callHeaders call ++
    authorization c.serviceUrl

/-- The request of a call, unless a header cannot be sent. -/
def request? (c : Client) (call : Call) (requestId : String) : Option Request :=
  let headers := c.headers call requestId
  if headers.all fun h => isHeaderText h.2 then
    let url := c.leaseUrl call.path call.timeout
    let url := if (authorization url).isEmpty then url
      else { url with username := [], password := none }
    some ⟨.put, url, headers.map fun h => .ofText h.1 h.2⟩
  else none

/-- How long to wait for an answer to a call, in seconds. -/
def limit (c : Client) (call : Call) : Nat :=
  match positive? call.timeout with
  | some seconds => seconds.toNat
  | none => c.requestTimeout.toNat

/-- The headers of the reply that grants a call. -/
def send (c : Client) (call : Call) (n : Network) :
    Except TransportError (List Header) × Network :=
  match c.request? call (n.requestId n.sent) with
  | none => (.error (.request .unbuildable), { n with sent := n.sent + 1 })
  | some r =>
    match { n with sent := n.sent + 1 }.exchange (c.limit call) maxRedirects r with
    | (.error e, n) => (.error e, n)
    | (.ok reply, n) => (if reply.isSuccess then .ok reply.headers else .error reply.refusal, n)

def answerOf (headers : List Header) : (call : Call) → Except TransportError call.Answer
  | .acquire .. => leaseReply headers
  | .release .. => leaseReply headers
  | .change .. => leaseReply headers
  | .break .. => leaseTime headers

def transport (c : Client) : Transport Network := fun call n =>
  let (headers, n) := c.send call n
  (headers.bind fun headers => answerOf headers call, n)

end Client
end FileLease.Http
