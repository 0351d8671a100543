import FileLease.Text.Blank

/-! # The name and version under which the client appears -/
namespace FileLease.Release
open Text

def name : String := "fileshare"
def version : String := "0.1.0"
def platform : String := "linux x86_64"

def fullVersion : String :=
  version ++ " (" ++ platform ++ ")"

/-- How the client names itself in requests, before a suffix if there is one that is not blank. -/
def userAgent (suffix : Option String) : String :=
  let own := name ++ "/" ++ version
  match (suffix.map trim).filter (! ·.isEmpty) with
  | some suffix => own ++ " " ++ suffix
  | none => own

end FileLease.Release
