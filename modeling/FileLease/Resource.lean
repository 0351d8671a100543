import FileLease.SharePath

/-! # Resources of a share, and the ways between them -/
namespace FileLease
open Text

inductive ResourceKind
  | share
  | directory
  | file
  deriving DecidableEq, Repr

def ResourceKind.display : ResourceKind → String
  | .share => "share"
  | .directory => "directory"
  | .file => "file"

/-- A resource that a lease may be asked for: what it is, where it is, and the file that its lease
calls would go to, if it takes lease calls. -/
structure Resource where
  kind : ResourceKind
  path : SharePath
  endpoint : Option SharePath
  deriving DecidableEq, Repr

structure Share where
  path : SharePath
  deriving DecidableEq, Repr

structure Directory where
  path : SharePath
  deriving DecidableEq, Repr

structure File where
  path : SharePath
  deriving DecidableEq, Repr

namespace Share

def named (share : String) : Share :=
  ⟨SharePath.of share ""⟩

def name (s : Share) : String :=
  s.path.share

def root (s : Share) : Directory :=
  ⟨s.path⟩

end Share

namespace Directory

def subdirectory (d : Directory) (name : String) : Directory :=
  ⟨d.path.join name⟩

def file (d : Directory) (name : String) : File :=
  ⟨d.path.join name⟩

end Directory

namespace Share

def directory (s : Share) (name : String) : Directory :=
  s.root.subdirectory name

def file (s : Share) (path : String) : File :=
  s.root.file path

def resource (s : Share) : Resource :=
  ⟨.share, s.path, none⟩

end Share

def Directory.resource (d : Directory) : Resource :=
  ⟨.directory, d.path, none⟩

/-- Only files take lease calls. -/
def File.resource (f : File) : Resource :=
  ⟨.file, f.path, some f.path⟩

def File.name (f : File) : String :=
  f.path.name

def endpointDebug (path : SharePath) : String :=
  record "FileEndpoint" [("path", path.debug)]

def Share.debug (s : Share) : String :=
  record "ShareClient" [("path", s.path.debug)]

def Directory.debug (d : Directory) : String :=
  record "DirectoryClient" [("path", d.path.debug)]

def File.debug (f : File) : String :=
  record "FileClient" [("path", f.path.debug)]

end FileLease
