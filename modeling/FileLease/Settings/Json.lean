import FileLease.Json.Problem
import FileLease.Settings.Basic

/-! # Settings as JSON values -/
namespace FileLease.Settings
open Json

def toJson (s : Settings) : Json :=
  .object [("account_url", .string s.accountUrl), ("sas_token", .ofOption .string s.sasToken),
    ("api_version", .string s.apiVersion),
    ("request_timeout_secs", .integer s.requestTimeout.toNat),
    ("lease_timeout_secs", .ofOption (fun n => .integer n.toNat) s.leaseTimeout),
    ("user_agent_suffix", .ofOption .string s.userAgentSuffix)]

def readText : Json → Except Mismatch String
  | .string s => .ok s
  | a => .error (.type (.of a) "a string")

def readNatural (bound : Nat) (expected : String) : Json → Except Mismatch Nat
  | .number (.integer n) =>
    if 0 ≤ n ∧ n < bound then .ok n.toNat
    else .error (.value (.number (.integer n)) expected)
  | a => .error (.type (.of a) expected)

def readOptional (read : Json → Except Mismatch α) : Json → Except Mismatch (Option α)
  | .null => .ok none
  | a => (read a).map some

/-- The value of a field that may be missing. -/
def readField (read : Json → Except Mismatch α) (missing : α) : Option Json → Except Mismatch α
  | none => .ok missing
  | some a => read a

def readAccountUrl (a : Option Json) : Except Mismatch String :=
  readField readText default.accountUrl a

def readApiVersion (a : Option Json) : Except Mismatch String :=
  readField readText default.apiVersion a

def readOptionalText (a : Option Json) : Except Mismatch (Option String) :=
  readField (readOptional readText) none a

def readRequestTimeout (a : Option Json) : Except Mismatch UInt64 :=
  (readField (readNatural UInt64.size "u64") default.requestTimeout.toNat a).map UInt64.ofNat

def readLeaseTimeout (a : Option Json) : Except Mismatch (Option UInt32) :=
  (readField (readOptional (readNatural UInt32.size "u32")) none a).map
    (·.map UInt32.ofNat)

/-- Settings from the members of an object, read in the order of their names. Other members do not
count. -/
def ofMembers (a : Json) : Except Mismatch Settings := do
  let accountUrl ← readAccountUrl (a.member? "account_url")
  let apiVersion ← readApiVersion (a.member? "api_version")
  let leaseTimeout ← readLeaseTimeout (a.member? "lease_timeout_secs")
  let requestTimeout ← readRequestTimeout (a.member? "request_timeout_secs")
  let sasToken ← readOptionalText (a.member? "sas_token")
  let userAgentSuffix ← readOptionalText (a.member? "user_agent_suffix")
  return { accountUrl, sasToken, apiVersion, requestTimeout, leaseTimeout, userAgentSuffix }

/-- Settings from a list of the values of the first fields. -/
def ofItems (items : List Json) : Except Mismatch Settings := do
  let accountUrl ← readAccountUrl items[0]?
  let sasToken ← readOptionalText items[1]?
  let apiVersion ← readApiVersion items[2]?
  let requestTimeout ← readRequestTimeout items[3]?
  let leaseTimeout ← readLeaseTimeout items[4]?
  let userAgentSuffix ← readOptionalText items[5]?
  if 6 < items.length then throw (.length items.length "fewer elements in array")
  return { accountUrl, sasToken, apiVersion, requestTimeout, leaseTimeout, userAgentSuffix }

def ofJson : Json → Except Fault Settings
  | .array items => (ofItems items).mapError fun m => ⟨.mismatch m, none⟩
  | .object members => (ofMembers (.object members)).mapError fun m => ⟨.mismatch m, none⟩
  | a => .error ⟨.mismatch (.type (.of a) "struct Config"), none⟩

end FileLease.Settings
