import FileLease.Program

/-! # The program

No connection is opened: all requests stay unanswered. -/
namespace FileLease.Program

/-- Names and values of the environment, zero bytes between them. -/
def variablesOf (environment : String) : List (String × String) :=
  (environment.toList.splitOn '\x00').map fun line =>
    (String.ofList (line.takeWhile (· ≠ '=')), String.ofList ((line.dropWhile (· ≠ '=')).drop 1))

def readFile? (place : String) : IO (Option String) := do
  try return some (← IO.FS.readFile place)
  catch _ => return none

def surroundings (words : List String) : IO Surroundings := do
  let home := (← IO.getEnv "HOME").getD "."
  let place := home ++ "/" ++ ".fileshare/config.toml"
  let bytes ← IO.getRandomBytes 16
  let entropy : Vector UInt8 16 := .ofFn fun i => (bytes[i.val]?).getD 0
  return {
    words
    file := ← readFile? place
    filePlace := place
    environment := variablesOf ((← readFile? "/proc/self/environ").getD "")
    freshId := Guid.ofEntropy entropy
    network := ⟨.unreachable, [], 0, 0, fun _ => Guid.ofEntropy entropy⟩ }

def writeConfig (place content : String) : IO Unit := do
  let directory := String.ofList ((place.toList.reverse.dropWhile (· ≠ '/')).drop 1).reverse
  IO.FS.createDirAll directory
  IO.FS.writeFile place content

end FileLease.Program

open FileLease FileLease.Program in
def main (words : List String) : IO UInt32 := do
  let s ← surroundings words
  let finished := run s
  if finished.file ≠ s.file then writeConfig s.filePlace (finished.file.getD "")
  if finished.warned then IO.eprintln "failed to parse config"
  for complaint in finished.complaints do IO.eprintln complaint
  IO.print finished.output
  return finished.exitCode.toUInt32
