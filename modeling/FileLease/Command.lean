import FileLease.Failure.Basic
import FileLease.Text.Numeral

/-! # Command lines -/
namespace FileLease
open Text

/-- What the program is asked to do. -/
inductive Command
  | acquire (file : String) (leaseId : Option String) (timeout : Option UInt32)
  | release (file leaseId : String) (timeout : Option UInt32)
  | change (file leaseId proposed : String) (timeout : Option UInt32)
  | break (file : String) (timeout : Option UInt32)
  | config (init : Bool)
  deriving DecidableEq, Repr

namespace Command

inductive Line
  | run (c : Command)
  | version
  | help
  | usage
  deriving DecidableEq, Repr

/-- What was found on a command line: values of options, flags, and arguments without a name. -/
structure Found where
  options : List (String × String)
  flags : List String
  arguments : List String

structure Form where
  options : List String
  flags : List String
  arguments : Nat

namespace Found

def empty : Found :=
  ⟨[], [], []⟩

def addArgument (found : Found) (form : Form) (word : String) : Except Line Found :=
  if found.arguments.length < form.arguments then
    .ok { found with arguments := found.arguments ++ [word] }
  else .error .usage

def addFlag (found : Found) (name : String) : Except Line Found :=
  if name ∈ found.flags then .error .usage
  else .ok { found with flags := found.flags ++ [name] }

/-- The value of an option, which may be given once; a timeout has to be a number. -/
def addOption (found : Found) (name value : String) : Except Line Found :=
  if (found.options.lookup name).isSome ∨
      name = "timeout" ∧ (readUInt32? value.toList).isNone then .error .usage
  else .ok { found with options := found.options ++ [(name, value)] }

def option? (found : Found) (name : String) : Option String :=
  found.options.lookup name

def timeout? (found : Found) : Option UInt32 :=
  (found.option? "timeout").bind fun value => readUInt32? value.toList

end Found

/-- A word that names an option or a flag; a hyphen alone does not. -/
def isHyphened (word : String) : Bool :=
  word.toList.head? = some '-' && word ≠ "-"

/-- Reads the words after the name of a command. All words after two hyphens are arguments. -/
def scan (form : Form) (found : Found) : List String → Except Line Found
  | [] => .ok found
  | "--" :: rest => rest.foldlM (fun found word => found.addArgument form word) found
  | word :: rest =>
    let s := word.toList
    let name := String.ofList ((s.drop 2).takeWhile (· ≠ '='))
    let value := String.ofList ((s.dropWhile (· ≠ '=')).drop 1)
    if !isHyphened word then
      (found.addArgument form word).bind fun found => scan form found rest
    else if word = "--help" ∨ s.take 2 = ['-', 'h'] then .error .help
    else if s.take 2 ≠ ['-', '-'] then .error .usage
    else if s.contains '=' then
      if name ∈ form.options then
        (found.addOption name value).bind fun found => scan form found rest
      else .error .usage
    else if name ∈ form.flags then
      (found.addFlag name).bind fun found => scan form found rest
    else if name ∈ form.options then
      match rest with
      | [] => .error .usage
      | value :: rest =>
        if isHyphened value then .error .usage
        else (found.addOption name value).bind fun found => scan form found rest
    else .error .usage

def names : List String := ["acquire", "release", "change", "break", "config"]

def formOf (name : String) : Form :=
  match name with
  | "acquire" | "release" => ⟨["lease-id", "timeout"], [], 1⟩
  | "change" => ⟨["lease-id", "proposed-lease-id", "timeout"], [], 1⟩
  | "break" => ⟨["timeout"], [], 1⟩
  | _ => ⟨[], ["init"], 0⟩

/-- The command of a name, if all that it needs was found. -/
def ofFound (name : String) (found : Found) : Option Command :=
  match name with
  | "acquire" => do
    let file ← found.arguments.head?
    return .acquire file (found.option? "lease-id") found.timeout?
  | "release" => do
    let file ← found.arguments.head?
    let leaseId ← found.option? "lease-id"
    return .release file leaseId found.timeout?
  | "change" => do
    let file ← found.arguments.head?
    let leaseId ← found.option? "lease-id"
    let proposed ← found.option? "proposed-lease-id"
    return .change file leaseId proposed found.timeout?
  | "break" => do
    let file ← found.arguments.head?
    return .break file found.timeout?
  | _ => some (.config ("init" ∈ found.flags))

/-- What the words of a command line say. -/
def read : List String → Line
  | [] => .usage
  | word :: rest =>
    if word = "--version" ∨ word.toList.take 2 = ['-', 'V'] then .version
    else if word = "--help" ∨ word.toList.take 2 = ['-', 'h'] then .help
    else if word = "help" then
      match rest with
      | [] => .help
      | [name] => if name ∈ "help" :: names then .help else .usage
      | _ => .usage
    else if word ∈ names then
      match scan (formOf word) .empty rest with
      | .error line => line
      | .ok found => ((ofFound word found).map .run).getD .usage
    else .usage

def fileOf (argument : String) : Except ConfigError SharePath :=
  let trimmed := (SharePath.trimSlashes argument).toList
  let share := trimmed.takeWhile (· ≠ '/')
  let path := (trimmed.dropWhile (· ≠ '/')).drop 1
  if share.isEmpty ∨ path.isEmpty then
    .error (.invalid ("file must be given as share/path, got " ++ quoted argument))
  else .ok (.of (String.ofList share) (String.ofList path))

end Command
end FileLease
