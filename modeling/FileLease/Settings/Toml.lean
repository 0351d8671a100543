import FileLease.Settings.Basic
import FileLease.Toml.Printer

/-! # Settings as TOML texts -/
namespace FileLease.Settings
open Toml

/-- The lines of settings; a setting that is not there has none. -/
def toLines (s : Settings) : List (String × Plain) :=
  let text (key : String) (value : Option String) : List (String × Plain) :=
    (value.map fun v => (key, .text v)).toList
  text "account_url" (some s.accountUrl) ++ text "sas_token" s.sasToken ++
    text "api_version" (some s.apiVersion) ++
    [("request_timeout_secs", .integer s.requestTimeout.toNat)] ++
    (s.leaseTimeout.map fun n => ("lease_timeout_secs", Plain.integer n.toNat)).toList ++
    text "user_agent_suffix" s.userAgentSuffix

def toToml (s : Settings) : String :=
  String.ofList (document s.toLines)

end FileLease.Settings
