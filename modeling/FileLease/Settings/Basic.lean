import FileLease.Failure.Basic
import FileLease.Url.Reader

/-! # Settings of the client -/
namespace FileLease
open Text

structure Settings where
  accountUrl : String
  sasToken : Option String
  apiVersion : String
  requestTimeout : UInt64
  leaseTimeout : Option UInt32
  userAgentSuffix : Option String
  deriving DecidableEq, Repr

namespace Settings

def default : Settings :=
  ⟨"", none, "2019-07-07", 30, none, none⟩

/-- The longest time to wait for an answer, in seconds. -/
def maxRequestTimeout : UInt64 := 3600

def serviceUrl (s : Settings) : Except ConfigError Url :=
  let raw := trim s.accountUrl
  if raw.isEmpty then .error .missingAccountUrl
  else match Url.read raw with
    | .ok (.web url) => .ok url
    | .ok (.other scheme) =>
      .error (.invalidAccountUrl raw ("unsupported scheme " ++ String.ofList scheme))
    | .error fault => .error (.invalidAccountUrl raw fault.message)

/-- The service URL of settings that can be used. -/
def checked (s : Settings) : Except ConfigError Url := do
  let url ← s.serviceUrl
  if isBlankText s.apiVersion then throw (.invalid "api_version must not be empty")
  unless 0 < s.requestTimeout ∧ s.requestTimeout ≤ maxRequestTimeout do
    throw (.invalid ("request_timeout_secs " ++
      String.ofList (decimal s.requestTimeout.toNat) ++ " must be between 1 and " ++
      String.ofList (decimal maxRequestTimeout.toNat)))
  if s.leaseTimeout = some 0 then throw (.invalid "lease_timeout_secs must be positive")
  return url

end Settings
end FileLease
