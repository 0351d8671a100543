import FileLease.Text.Numeral

/-! # Trees of directories and files -/
namespace FileLease
open Text

inductive FileFault
  | notFound
  | exists
  | notDirectory
  | isDirectory
  | nameTooLong
  | nullInName
  deriving DecidableEq, Repr

def FileFault.message : FileFault → String
  | .notFound => "No such file or directory (os error 2)"
  | .exists => "File exists (os error 17)"
  | .notDirectory => "Not a directory (os error 20)"
  | .isDirectory => "Is a directory (os error 21)"
  | .nameTooLong => "File name too long (os error 36)"
  | .nullInName => "file name contained an unexpected NUL byte"

/-- Places as lists of names from the root, with the content of files; a directory has none. The
root is a directory. -/
structure FileTree where
  nodes : List (List String × Option String)
  deriving DecidableEq, Repr

namespace FileTree

/-- The names of a path; empty ones and single dots do not count. -/
def names (path : String) : List String :=
  ((path.toList.splitOn '/').map String.ofList).filter fun name => name ≠ "" ∧ name ≠ "."

def isDirectory (t : FileTree) (place : List String) : Bool :=
  place.isEmpty || t.nodes.lookup place == some none

def isThere (t : FileTree) (place : List String) : Bool :=
  place.isEmpty || (t.nodes.lookup place).isSome

/-- The longest name, in bytes. -/
def maxNameLength : Nat := 255

/-- The place that names lead to from a directory; two dots lead to the directory above. All but
the last have to name directories. -/
def locate (t : FileTree) (at_ : List String) : List String → Except FileFault (List String)
  | [] => .ok at_
  | name :: rest =>
    if maxNameLength < name.utf8ByteSize then .error .nameTooLong
    else
      let next := if name = ".." then at_.dropLast else at_ ++ [name]
      if rest.isEmpty then .ok next
      else if t.isDirectory next then t.locate next rest
      else if t.isThere next then .error .notDirectory
      else .error .notFound

/-- Refuses names that no file can have. -/
def checkNames (names : List String) : Except FileFault Unit :=
  if names.any fun name => name.toList.contains '\x00' then .error .nullInName else .ok ()

def createDirectory (t : FileTree) (names : List String) : Except FileFault FileTree := do
  checkNames names
  let place ← t.locate [] names
  if t.isThere place then throw .exists
  return ⟨t.nodes ++ [(place, none)]⟩

def leadsToDirectory (t : FileTree) (names : List String) : Bool :=
  match t.locate [] names with
  | .ok place => t.isDirectory place
  | .error _ => false

/-- A directory with all those above it that are missing. -/
def createDirectories (t : FileTree) (names : List String) : Except FileFault FileTree :=
  match _h : names with
  | [] => .ok t
  | _ :: _ =>
    match t.createDirectory names with
    | .ok t => .ok t
    | .error .notFound => do
      let t ← t.createDirectories names.dropLast
      match t.createDirectory names with
      | .ok t => return t
      | .error fault => if t.leadsToDirectory names then return t else throw fault
    | .error fault => if t.leadsToDirectory names then .ok t else .error fault
termination_by names.length
decreasing_by simp only [_h, List.length_dropLast, List.length_cons]; omega

def write (t : FileTree) (path content : String) : Except FileFault FileTree := do
  let names := names path
  checkNames names
  let place ← t.locate [] names
  if path.toList.getLast? = some '/' ∨ t.isDirectory place then throw .isDirectory
  return ⟨t.nodes.filter (·.1 ≠ place) ++ [(place, some content)]⟩

def read? (t : FileTree) (path : String) : Option String :=
  match t.locate [] (names path) with
  | .ok place => (t.nodes.lookup place).join
  | .error _ => none

def put (t : FileTree) (path content : String) : Except FileFault FileTree := do
  let t ← t.createDirectories (names path).dropLast
  t.write path content

end FileTree
end FileLease
