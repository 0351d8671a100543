import FileLease.Failure.Rejection
import FileLease.Failure.Transport
import FileLease.Json.Problem
import FileLease.Resource

/-! # Failures, as callers see them -/
namespace FileLease
open Text

inductive ConfigError
  | noUserDirectories
  | missingAccountUrl
  | invalidAccountUrl (url reason : String)
  | invalid (text : String)
  deriving DecidableEq, Repr

def ConfigError.message : ConfigError → String
  | .noUserDirectories => "failed to get user directories"
  | .missingAccountUrl =>
    "account_url is not set; set it in config.toml or FILESHARE_ACCOUNT_URL"
  | .invalidAccountUrl url reason => "invalid account url " ++ quoted url ++ ": " ++ reason
  | .invalid text => "invalid config: " ++ text

inductive Failure
  | unsupportedResource (kind : ResourceKind)
  | invalidLeaseId (id : String)
  | transport (error : TransportError)
  | rejected (rejection : Rejection)
  | config (error : ConfigError)
  | io (text : String)
  | json (fault : Json.Fault)

namespace Failure

/-- A refusal by the service becomes a rejection, all other failures of a call stay as they are. -/
def ofTransport : TransportError → Failure
  | .refused status code message => .rejected ⟨status, .ofText (code.getD ""), message⟩
  | error => .transport error

def cause : Failure → Option String
  | .unsupportedResource _ => none
  | .invalidLeaseId _ => none
  | .transport error => some error.message
  | .rejected rejection => some rejection.text
  | .config error => some error.message
  | .io text => some text
  | .json fault => some fault.message

def message (f : Failure) : String :=
  match f with
  | .unsupportedResource kind =>
    "lease must use a file client, got a " ++ kind.display ++ " client"
  | .invalidLeaseId id => "invalid lease id: " ++ quoted id
  | .transport error => "transport error: " ++ error.message
  | .rejected rejection => "lease error: " ++ rejection.text
  | .config error => "config error: " ++ error.message
  | .io text => "io error: " ++ text
  | .json fault => "json error: " ++ fault.message

def rejectionKind? : Failure → Option RejectionKind
  | .rejected rejection => some rejection.kind
  | _ => none

/-- The number with which a program ends that fails like this. -/
def exitCode : Failure → Nat
  | .rejected rejection =>
    match rejection.kind with
    | .conflict | .idMismatch | .noActiveLease => 10
    | .notFound => 4
    | .badFormat => 2
    | .other => 1
  | .transport .timeout => 11
  | .unsupportedResource _ | .invalidLeaseId _ | .config _ => 2
  | .transport _ | .io _ | .json _ => 1

end Failure
end FileLease
