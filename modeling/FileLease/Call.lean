import FileLease.Failure.Transport
import FileLease.Instant.Basic
import FileLease.SharePath

/-! # The calls of the lease service -/
namespace FileLease
open Text

/-- For how long a lease is asked. -/
inductive LeaseDuration
  | infinite
  | fixed (seconds : UInt32)
  deriving DecidableEq, Repr

def LeaseDuration.text : LeaseDuration → String
  | .infinite => "-1"
  | .fixed seconds => String.ofList (decimal seconds.toNat)

def LeaseDuration.debug : LeaseDuration → String
  | .infinite => "Infinite"
  | .fixed seconds => "Fixed(" ++ String.ofList (decimal seconds.toNat) ++ ")"

/-- What the service answers to a granted acquire, release or change. -/
structure LeaseReply where
  leaseId : Option String
  etag : String
  lastModified : Instant
  deriving DecidableEq, Repr

/-- A call of the service; the timeout is in seconds. -/
inductive Call
  | acquire (path : SharePath) (timeout : Option UInt32) (duration : LeaseDuration)
      (proposed : String)
  | release (path : SharePath) (leaseId : String) (timeout : Option UInt32)
  | change (path : SharePath) (leaseId proposed : String) (timeout : Option UInt32)
  | break (path : SharePath) (timeout : Option UInt32)
  deriving DecidableEq, Repr

namespace Call

/-- What a granted call gives: for a break the seconds until the lease ends. -/
@[reducible] def Answer : Call → Type
  | .acquire .. => LeaseReply
  | .release .. => LeaseReply
  | .change .. => LeaseReply
  | .break .. => UInt32

def path : Call → SharePath
  | .acquire path .. => path
  | .release path .. => path
  | .change path .. => path
  | .break path .. => path

def timeout : Call → Option UInt32
  | .acquire _ timeout .. => timeout
  | .release _ _ timeout => timeout
  | .change _ _ _ timeout => timeout
  | .break _ timeout => timeout

def action : Call → String
  | .acquire .. => "acquire"
  | .release .. => "release"
  | .change .. => "change"
  | .break .. => "break"

end Call

/-- A way to make calls, `σ` being what they change. -/
abbrev Transport (σ : Type) := (c : Call) → σ → Except TransportError c.Answer × σ

end FileLease
