import FileLease.Json.Printer
import FileLease.Json.Record

/-! # What is known of a lease, as a record to keep -/
namespace FileLease
open Json

/-- The tag and the time of a file's last change, as one answer of the service gives them. -/
structure Revision where
  etag : String
  lastModified : Instant
  deriving DecidableEq, Repr

/-- A lease to keep: the file, the id and what is known of the file's last change. -/
structure Snapshot where
  path : String
  leaseId : String
  etag : Option String
  lastModified : Option Instant
  deriving DecidableEq, Repr

def Instant.toJson (t : Instant) : Json :=
  .string t.toRfc3339

namespace Revision

@[reducible] def fields : List Field :=
  [⟨"etag", .text⟩, ⟨"last_modified", .instant⟩]

def ofValues : Values fields → Revision
  | (etag, lastModified, ()) => ⟨etag, lastModified⟩

def ofText (text : String) : Except Json.Fault Revision :=
  (readWhole (readRecord "LeaseRevision" fields) text).map ofValues

def toJson (r : Revision) : Json :=
  .object [("etag", .string r.etag), ("last_modified", r.lastModified.toJson)]

def toText (r : Revision) : String :=
  r.toJson.compact

end Revision

namespace Snapshot

@[reducible] def fields : List Field :=
  [⟨"path", .text⟩, ⟨"lease_id", .text⟩, ⟨"etag", .optional .text⟩,
    ⟨"last_modified", .optional .instant⟩]

def ofValues : Values fields → Snapshot
  | (path, leaseId, etag, lastModified, ()) => ⟨path, leaseId, etag, lastModified⟩

def ofText (text : String) : Except Json.Fault Snapshot :=
  (readWhole (readRecord "LeaseSnapshot" fields) text).map ofValues

def toJson (s : Snapshot) : Json :=
  .object [("path", .string s.path), ("lease_id", .string s.leaseId),
    ("etag", .ofOption .string s.etag), ("last_modified", .ofOption Instant.toJson s.lastModified)]

def toText (s : Snapshot) : String :=
  s.toJson.compact

end Snapshot
end FileLease
