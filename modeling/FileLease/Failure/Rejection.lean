import FileLease.Text.Numeral
import FileLease.Text.Quoted

/-! # Refusals by the service: their codes and kinds -/
namespace FileLease
open Text

inductive ErrorCode
  | leaseAlreadyPresent
  | leaseIdMismatch
  | leaseNotPresent
  | leaseIdMissing
  | resourceNotFound
  | shareNotFound
  | parentNotFound
  | invalidHeaderValue
  | invalidQueryParameterValue
  | authenticationFailed
  | other (text : String)
  | unknown
  deriving DecidableEq, Repr

namespace ErrorCode

/-- The code of a text; the empty text is no code. -/
def ofText (text : String) : ErrorCode :=
  match text with
  | "LeaseAlreadyPresent" => .leaseAlreadyPresent
  | "LeaseIdMismatchWithLeaseOperation" => .leaseIdMismatch
  | "LeaseNotPresentWithLeaseOperation" => .leaseNotPresent
  | "LeaseIdMissing" => .leaseIdMissing
  | "ResourceNotFound" => .resourceNotFound
  | "ShareNotFound" => .shareNotFound
  | "ParentNotFound" => .parentNotFound
  | "InvalidHeaderValue" => .invalidHeaderValue
  | "InvalidQueryParameterValue" => .invalidQueryParameterValue
  | "AuthenticationFailed" => .authenticationFailed
  | "" => .unknown
  | text => .other text

def text : ErrorCode → String
  | .leaseAlreadyPresent => "LeaseAlreadyPresent"
  | .leaseIdMismatch => "LeaseIdMismatchWithLeaseOperation"
  | .leaseNotPresent => "LeaseNotPresentWithLeaseOperation"
  | .leaseIdMissing => "LeaseIdMissing"
  | .resourceNotFound => "ResourceNotFound"
  | .shareNotFound => "ShareNotFound"
  | .parentNotFound => "ParentNotFound"
  | .invalidHeaderValue => "InvalidHeaderValue"
  | .invalidQueryParameterValue => "InvalidQueryParameterValue"
  | .authenticationFailed => "AuthenticationFailed"
  | .other text => text
  | .unknown => "Unknown"

def variant : ErrorCode → String
  | .other _ => "Other"
  | code => code.text

def debug : ErrorCode → String
  | .other text => "Other(" ++ quoted text ++ ")"
  | code => code.text

end ErrorCode

/-- What a refusal means for the caller. -/
inductive RejectionKind
  | conflict
  | notFound
  | badFormat
  | idMismatch
  | noActiveLease
  | other
  deriving DecidableEq, Repr

def RejectionKind.name : RejectionKind → String
  | .conflict => "Conflict"
  | .notFound => "NotFound"
  | .badFormat => "BadFormat"
  | .idMismatch => "IdMismatch"
  | .noActiveLease => "NoActiveLease"
  | .other => "Other"

/-- A lease call refused by the service. -/
structure Rejection where
  status : Nat
  code : ErrorCode
  message : String
  deriving DecidableEq, Repr

namespace Rejection

/-- The kind of a refusal whose code says nothing about leases. -/
def kindOfStatus (status : Nat) : RejectionKind :=
  if status = 400 then .badFormat
  else if status = 404 then .notFound
  else if status = 409 then .conflict
  else .other

def kind (r : Rejection) : RejectionKind :=
  match r.code with
  | .leaseAlreadyPresent => .conflict
  | .leaseIdMismatch | .leaseIdMissing => .idMismatch
  | .leaseNotPresent => .noActiveLease
  | .resourceNotFound | .shareNotFound | .parentNotFound => .notFound
  | .invalidHeaderValue | .invalidQueryParameterValue => .badFormat
  | .authenticationFailed | .other _ | .unknown => kindOfStatus r.status

def text (r : Rejection) : String :=
  r.code.text ++ " (HTTP " ++ String.ofList (decimal r.status) ++ "): " ++ r.message

end Rejection
end FileLease
