import FileLease.Settings.Basic
import FileLease.Settings.Environment
import FileLease.Toml.Reader

/-! # Settings from a file and from the environment

A variable counts more than the file, the file more than the default. If anything is not as it
should be, all settings have their defaults. -/
namespace FileLease.Settings

def Entry.ofNode : Toml.Node → Entry
  | .text s => .text s
  | .integer n => .integer n
  | _ => .other

def asText : Entry → Option String
  | .text s => some s
  | _ => none

def asNatural (bound : Nat) : Entry → Option Nat
  | .integer n => if 0 ≤ n ∧ n < bound then some n.toNat else none
  | _ => none

/-- The value of a setting by its type; without a value it is the default. -/
def typed (read : Entry → Option α) (missing : α) (entry : Option Entry) : Option α :=
  match entry with
  | none => some missing
  | some entry => read entry

/-- Settings with the given values, if all have their type. -/
def ofEntries (entry : String → Option Entry) : Option Settings := do
  let accountUrl ← typed asText default.accountUrl (entry "account_url")
  let sasToken ← typed (fun e => (asText e).map some) none (entry "sas_token")
  let apiVersion ← typed asText default.apiVersion (entry "api_version")
  let requestTimeout ← typed (asNatural UInt64.size) default.requestTimeout.toNat
    (entry "request_timeout_secs")
  let leaseTimeout ← typed (fun e => (asNatural UInt32.size e).map some) none
    (entry "lease_timeout_secs")
  let userAgentSuffix ← typed (fun e => (asText e).map some) none (entry "user_agent_suffix")
  return { accountUrl, sasToken, apiVersion, requestTimeout := .ofNat requestTimeout
           leaseTimeout := leaseTimeout.map .ofNat, userAgentSuffix }

def read? (file : Option String) (environment : List (String × String)) : Option Settings := do
  let entries ← match file with
    | none => some []
    | some text => Toml.read? text
  ofEntries fun setting =>
    Environment.lookup environment setting <|> (entries.lookup setting).map Entry.ofNode

/-- The settings to use, and whether they are the defaults because something is wrong. -/
def load (file : Option String) (environment : List (String × String)) : Settings × Bool :=
  match read? file environment with
  | some settings => (settings, false)
  | none => (default, true)

end FileLease.Settings
