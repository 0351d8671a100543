import FileLease.Command
import FileLease.Handle
import FileLease.Http.Client
import FileLease.Json.Printer
import FileLease.Release
import FileLease.Settings.Load
import FileLease.Settings.Toml

/-! # What the program does and prints -/
namespace FileLease.Program
open Text Http

/-- What the program finds: the words of its command line, the file of its settings and its place,
the environment, an id for a new lease, and a network. -/
structure Surroundings where
  words : List String
  file : Option String
  filePlace : String
  environment : List (String × String)
  freshId : String
  network : Network

/-- What the program leaves: its exit code, what it prints and complains about, whether a warning
came before, the file of its settings and the network. -/
structure Finished where
  exitCode : Nat
  output : String
  complaints : List String
  warned : Bool
  file : Option String
  network : Network

/-- The document for a lease, its members in the order of their names. -/
def leaseDocument (h : Handle) : Json :=
  match h.snapshot.toJson with
  | .object members => .object (Json.sortMembers members)
  | a => a

def breakDocument (h : Handle) (seconds : UInt32) : Json :=
  .object [("lease_time", .integer seconds.toNat), ("path", .string h.path.display)]

def document (h : Handle) : Option UInt32 → Json
  | some seconds => breakDocument h seconds
  | none => leaseDocument h

/-- A handle for the file that an argument names. The argument is checked before the settings, and
those before the lease id. -/
def bind (settings : Settings) (file : String) (leaseId : Option String) (freshId : String) :
    Except Failure (Client × Handle) := do
  let path ← (Command.fileOf file).mapError .config
  let client ← Client.ofSettings settings
  let handle ← Handle.bind (File.mk path).resource leaseId freshId
  return (client, handle)

def operate (settings : Settings) (file : String) (leaseId : Option String) (freshId : String)
    (op : Operation) (timeout : Option UInt32) (n : Network) : Except Failure Json × Network :=
  match bind settings file leaseId freshId with
  | .error f => (.error f, n)
  | .ok (client, h) =>
    match h.perform client.transport op (timeout <|> settings.leaseTimeout) n with
    | (.error f, _, n) => (.error f, n)
    | (.ok seconds, h, n) => (.ok (document h seconds), n)

/-- The settings as they may be seen by others. -/
def shown (s : Settings) : Settings :=
  { s with sasToken := s.sasToken.map fun _ => "<redacted>" }

/-- Prints the settings; a file that is missing is made with default settings if wanted. -/
def showConfig (s : Surroundings) (settings : Settings) (warned init : Bool) : Finished :=
  let made := init && s.file.isNone
  { exitCode := 0
    output := (shown settings).toToml
    complaints := if made then ["wrote " ++ s.filePlace] else []
    warned
    file := if made then some Settings.default.toToml else s.file
    network := s.network }

def runCommand (s : Surroundings) (c : Command) : Finished :=
  let (settings, warned) := Settings.load s.file s.environment
  let report (result : Except Failure Json × Network) : Finished :=
    match result with
    | (.ok document, n) => ⟨0, document.pretty ++ "\n", [], warned, s.file, n⟩
    | (.error f, n) => ⟨f.exitCode, "", [f.message], warned, s.file, n⟩
  match c with
  | .acquire file leaseId timeout =>
    report (operate settings file leaseId s.freshId .acquire timeout s.network)
  | .release file leaseId timeout =>
    report (operate settings file (some leaseId) s.freshId .release timeout s.network)
  | .change file leaseId proposed timeout =>
    report (operate settings file (some leaseId) s.freshId (.change proposed) timeout s.network)
  | .break file timeout => report (operate settings file none s.freshId .break timeout s.network)
  | .config init => showConfig s settings warned init

def run (s : Surroundings) : Finished :=
  match Command.read s.words with
  | .run c => runCommand s c
  | .version =>
    ⟨0, Release.name ++ " " ++ Release.fullVersion ++ "\n", [], false, s.file, s.network⟩
  | .help => ⟨0, "", [], false, s.file, s.network⟩
  | .usage => ⟨2, "", ["<usage>"], false, s.file, s.network⟩

end FileLease.Program
