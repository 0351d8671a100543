import FileLease.Call
import FileLease.Guid

/-! # A lease service in memory

Every file has a lease state and a revision, which goes up with each change. Leases have no end and
break at once. -/
namespace FileLease
open Text

inductive LeaseState
  | available
  | leased (id : String)
  | broken
  deriving DecidableEq, Repr

structure FileState where
  lease : LeaseState
  revision : UInt64
  lastModified : Instant
  deriving DecidableEq, Repr

namespace FileState

def created (now : Instant) : FileState :=
  ⟨.available, 1, now.truncate⟩

/-- The tag of the revision: sixteen hexadecimal digits in quotation marks. -/
def etag (f : FileState) : String :=
  String.ofList ('\x22' :: '0' :: 'x' :: hexUpper 16 f.revision.toNat ++ ['\x22'])

/-- The file with another lease, a new revision and a later time, at least by a second. -/
def touched (f : FileState) (now : Instant) (lease : LeaseState) : FileState :=
  ⟨lease, f.revision + 1, now.truncate.latest (f.lastModified.addSeconds 1)⟩

def reply (f : FileState) (leaseId : Option String) : LeaseReply :=
  ⟨leaseId, f.etag, f.lastModified⟩

end FileState

namespace Service

def refusal (status : Nat) (code message : String) : TransportError :=
  .refused status (some code) message

def notFound : TransportError :=
  refusal 404 "ResourceNotFound" "The specified resource does not exist."

def badId (header : String) : TransportError :=
  refusal 400 "InvalidHeaderValue"
    ("The value for header " ++ header ++ " is not in the correct format.")

def badDuration : TransportError :=
  refusal 400 "InvalidHeaderValue" "File leases only support an infinite duration."

def alreadyPresent : TransportError :=
  refusal 409 "LeaseAlreadyPresent" "There is already a lease present."

def notPresent : TransportError :=
  refusal 409 "LeaseNotPresentWithLeaseOperation" "There is currently no lease on the file."

def mismatch : TransportError :=
  refusal 409 "LeaseIdMismatchWithLeaseOperation"
    "The lease ID specified did not match the lease ID for the file."

def idHeader : String := "x-ms-lease-id"

def proposedIdHeader : String := "x-ms-proposed-lease-id"

def checkId (header id : String) : Except TransportError Unit :=
  if Guid.isGuid id then .ok () else .error (badId header)

/-- Refuses a file that is not leased, or not under an id that `p` accepts. -/
def checkLease (p : String → Bool) (lease : LeaseState) : Except TransportError Unit :=
  match lease with
  | .leased id => if p id then .ok () else .error mismatch
  | .available | .broken => .error notPresent

/-- What a call does to the file that it names. -/
def serve (now : Instant) (f : FileState) :
    (c : Call) → Except TransportError (c.Answer × FileState)
  | .acquire _ _ duration proposed => do
    if duration ≠ .infinite then throw badDuration
    checkId proposedIdHeader proposed
    match f.lease with
    | .leased id => if id ≠ proposed then throw alreadyPresent
    | .available | .broken => pure ()
    let f := f.touched now (.leased proposed)
    return (f.reply (some proposed), f)
  | .release _ leaseId _ => do
    checkId idHeader leaseId
    checkLease (· == leaseId) f.lease
    let f := f.touched now .available
    return (f.reply none, f)
  | .change _ leaseId proposed _ => do
    checkId idHeader leaseId
    checkId proposedIdHeader proposed
    checkLease (fun id => id == leaseId || id == proposed) f.lease
    let f := f.touched now (.leased proposed)
    return (f.reply (some proposed), f)
  | .break _ _ =>
    match f.lease with
    | .leased _ => .ok (0, f.touched now .broken)
    | .available | .broken => .ok (0, f)

end Service

/-- The files of the service, and whether its next call shall time out. -/
structure Store where
  files : SharePath → Option FileState
  timeoutPending : Bool

namespace Store

def empty : Store :=
  ⟨fun _ => none, false⟩

def put (s : Store) (path : SharePath) (file : Option FileState) : Store :=
  { s with files := fun p => if p = path then file else s.files p }

/-- A new file that is not leased; a file that exists stays as it is. -/
def create (now : Instant) (path : SharePath) (s : Store) : Store :=
  if (s.files path).isSome then s else s.put path (some (.created now))

/-- Whether there was a file, and the store without it. -/
def delete (path : SharePath) (s : Store) : Bool × Store :=
  ((s.files path).isSome, s.put path none)

def failNext (s : Store) : Store :=
  { s with timeoutPending := true }

/-- The answer to a call. A pending timeout comes before all else. -/
def answer (now : Instant) (c : Call) (s : Store) : Except TransportError c.Answer × Store :=
  if s.timeoutPending then (.error .timeout, { s with timeoutPending := false })
  else match s.files c.path with
    | none => (.error Service.notFound, s)
    | some file =>
      match Service.serve now file c with
      | .error e => (.error e, s)
      | .ok (answer, file) => (.ok answer, s.put c.path (some file))

end Store

structure Service where
  store : Store
  clock : Instant

namespace Service

/-- What can be done to a service apart from calls. -/
inductive Command
  | clock (now : Instant)
  | create (path : SharePath)
  | delete (path : SharePath)
  | lookAt (path : SharePath)
  | failNext
  deriving DecidableEq, Repr

/-- Obeys a command; for a deletion tells whether there was a file. -/
def obey (s : Service) : Command → Option Bool × Service
  | .clock now => (none, { s with clock := now })
  | .create path => (none, { s with store := s.store.create s.clock path })
  | .delete path =>
    let (found, store) := s.store.delete path
    (some found, { s with store })
  | .lookAt _ => (none, s)
  | .failNext => (none, { s with store := s.store.failNext })

/-- Calls of the service at the time of its clock. -/
def transport : Transport Service := fun c s =>
  let (answer, store) := s.store.answer s.clock c
  (answer, { s with store })

end Service
end FileLease
