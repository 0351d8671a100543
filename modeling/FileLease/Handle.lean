import FileLease.Call
import FileLease.Failure.Basic
import FileLease.Guid
import FileLease.Snapshot

/-! # Handles: the client's side of a lease

A handle holds the id under which it asks for the lease of one file, and what the last granted call
told about the file. -/
namespace FileLease
open Text

structure Handle where
  id : String
  revision : Option Revision
  path : SharePath
  deriving DecidableEq, Repr

inductive Operation
  | acquire
  | release
  | change (proposed : String)
  | break
  deriving DecidableEq, Repr

namespace Handle

/-- A handle for the file of a resource. The id is the given one, which must not be blank, or else
the fresh one. -/
def bind (resource : Resource) (leaseId : Option String) (fresh : String) :
    Except Failure Handle :=
  match resource.endpoint with
  | none => .error (.unsupportedResource resource.kind)
  | some path =>
    match leaseId with
    | none => .ok ⟨fresh, none, path⟩
    | some id => if isBlankText id then .error (.invalidLeaseId id) else .ok ⟨id, none, path⟩

def bindEntropy (resource : Resource) (entropy : Vector UInt8 16) : Except Failure Handle :=
  bind resource (some (Guid.ofEntropy entropy)) ""

/-- The handle after a granted call: an id that the service names, unless empty, becomes its own. -/
def apply (h : Handle) (reply : LeaseReply) : Handle :=
  { h with
    id := (reply.leaseId.filter (! ·.isEmpty)).getD h.id
    revision := some ⟨reply.etag, reply.lastModified⟩ }

def snapshot (h : Handle) : Snapshot :=
  ⟨h.path.display, h.id, h.revision.map (·.etag), h.revision.map (·.lastModified)⟩

def debug (h : Handle) : String :=
  let revision (r : Revision) : String :=
    "Some(" ++ record "LeaseRevision"
      [("etag", quoted r.etag), ("last_modified", r.lastModified.toRfc3339)] ++ ")"
  record "FileLeaseClient"
    [("id", quoted h.id), ("revision", (h.revision.map revision).getD "None"),
      ("endpoint", endpointDebug h.path)]

end Handle

namespace Operation

/-- The call that an operation of a handle makes; leases are asked for without an end. -/
def call (h : Handle) (timeout : Option UInt32) : Operation → Call
  | .acquire => .acquire h.path timeout .infinite h.id
  | .release => .release h.path h.id timeout
  | .change proposed => .change h.path h.id proposed timeout
  | .break => .break h.path timeout

def update (h : Handle) (timeout : Option UInt32) :
    (op : Operation) → (op.call h timeout).Answer → Handle
  | .acquire, reply => h.apply reply
  | .release, reply => h.apply reply
  | .change proposed, reply => { h with id := proposed }.apply reply
  | .break, _ => h

/-- What a granted operation tells the caller: for a break the seconds until the lease ends. -/
def result (h : Handle) (timeout : Option UInt32) :
    (op : Operation) → (op.call h timeout).Answer → Option UInt32
  | .acquire, _ => none
  | .release, _ => none
  | .change _, _ => none
  | .break, seconds => some seconds

end Operation

namespace Handle

/-- Makes the call of an operation; a failure leaves the handle as it is. -/
def perform (transport : Transport σ) (op : Operation) (timeout : Option UInt32) (h : Handle)
    (state : σ) : Except Failure (Option UInt32) × Handle × σ :=
  match transport (op.call h timeout) state with
  | (.error e, state) => (.error (.ofTransport e), h, state)
  | (.ok answer, state) => (.ok (op.result h timeout answer), op.update h timeout answer, state)

end Handle
end FileLease
