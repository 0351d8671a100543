import FileLease.Handle

/-! # Work while a lease is held

The lease is acquired before the work and released after it, however the work ends. A cancelled work
leaves its release behind as a call to be made later. -/
namespace FileLease

/-- How a piece of work ends; a panic carries its message. -/
inductive Exit (α : Type)
  | value (a : α)
  | failure (f : Failure)
  | panic (message : String)
  | cancelled

/-- What a scope has to say about a release that its result does not show. -/
inductive Warning
  | releaseFailed (path : SharePath) (failure : Failure)
  | laterReleaseFailed (path : SharePath) (error : TransportError)
  | leaseStaysHeld (path : SharePath)

def Warning.path : Warning → SharePath
  | .releaseFailed path _ => path
  | .laterReleaseFailed path _ => path
  | .leaseStaysHeld path => path

def Warning.message : Warning → String
  | .releaseFailed _ failure => "failed to release lease: " ++ failure.message
  | .laterReleaseFailed _ error =>
    "failed to release lease after cancellation: " ++ error.message
  | .leaseStaysHeld _ => "scoped lease dropped outside a runtime; lease stays held"

/-- A release to be made after the scope is gone. -/
structure Deferred where
  path : SharePath
  leaseId : String
  timeout : Option UInt32
  deriving DecidableEq, Repr

/-- What a scope leaves behind. -/
structure Scoped (α ω : Type) where
  exit : Exit α
  handle : Handle
  warnings : List Warning
  deferred : Option Deferred
  world : ω

namespace Handle

/-- Does the work `body`, which is told the lease's id, while the lease is held. A failure of the
work counts more than a failed release. With `later` the release of a cancelled work is left to be
made, without it the lease stays held. -/
def withLease (transport : Transport ω) (later : Bool) (timeout : Option UInt32)
    (body : String → ω → Exit α × ω) (h : Handle) (world : ω) : Scoped α ω :=
  match h.perform transport .acquire timeout world with
  | (.error f, h, world) => ⟨.failure f, h, [], none, world⟩
  | (.ok _, h, world) =>
    match body h.id world with
    | (.cancelled, world) =>
      if later then ⟨.cancelled, h, [], some ⟨h.path, h.id, timeout⟩, world⟩
      else ⟨.cancelled, h, [.leaseStaysHeld h.path], none, world⟩
    | (exit, world) =>
      match h.perform transport .release timeout world, exit with
      | (.error f, h, world), .value _ => ⟨.failure f, h, [], none, world⟩
      | (.error f, h, world), exit => ⟨exit, h, [.releaseFailed h.path f], none, world⟩
      | (.ok _, h, world), exit => ⟨exit, h, [], none, world⟩

end Handle

/-- Makes a release that was left to be made. -/
def Deferred.run (transport : Transport ω) (d : Deferred) (world : ω) : List Warning × ω :=
  match transport (.release d.path d.leaseId d.timeout) world with
  | (.error e, world) => ([.laterReleaseFailed d.path e], world)
  | (.ok _, world) => ([], world)

end FileLease
