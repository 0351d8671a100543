import FileLease.Text.Blank
import FileLease.Text.Quoted

/-! # Places in a file share -/
namespace FileLease
open Text

/-- A place in a share: the share's name and the path below it. -/
structure SharePath where
  share : String
  path : String
  deriving DecidableEq, Repr

namespace SharePath

def isSlash (c : Char) : Bool := c = '/'

/-- `s` without the slashes at either end. -/
def trimSlashes (s : String) : String :=
  String.ofList (strip isSlash s.toList)

/-- The place that a share and a path name; slashes at either end of the path do not count. -/
def of (share path : String) : SharePath :=
  ⟨share, trimSlashes path⟩

/-- The place `segment` below `p`. -/
def join (p : SharePath) (segment : String) : SharePath :=
  let segment := trimSlashes segment
  ⟨p.share, if p.path.isEmpty then segment else p.path ++ "/" ++ segment⟩

def segments (p : SharePath) : List String :=
  (p.path.toList.splitOn '/').map String.ofList

def name (p : SharePath) : String :=
  p.segments.getLast?.getD ""

/-- Share and path, a slash between them if there is a path. -/
def display (p : SharePath) : String :=
  if p.path.isEmpty then p.share else p.share ++ "/" ++ p.path

/-- A path that `of` leaves as it is. -/
def Normal (p : SharePath) : Prop :=
  of p.share p.path = p

instance (p : SharePath) : Decidable p.Normal :=
  inferInstanceAs (Decidable (_ = _))

def debug (p : SharePath) : String :=
  record "ResourcePath" [("share", quoted p.share), ("path", quoted p.path)]

end SharePath
end FileLease
