import FileLease.Url.Percent

/-! # Paths of URLs as lists of segments

A path has one segment at least; the path `/` has one that is empty. -/
namespace FileLease.Url
open Text

def isDot (s : List Char) : Bool :=
  s == ['.'] || s.map Char.toLower == ['%', '2', 'e']

/-- Two dots, as they are or encoded. -/
def isDoubleDot (s : List Char) : Bool :=
  [1, 3].any fun n => isDot (s.take n) && isDot (s.drop n)

def isDriveLetter (s : List Char) : Bool :=
  match s with
  | [c, d] => c.isAlpha && (d = ':' || d = '|')
  | _ => false

/-- A path without its last segment, which stays if it names a drive. -/
def shorten (path : List (List Char)) : List (List Char) :=
  if path.getLast?.any isDriveLetter then path else path.dropLast

/-- What a segment with a slash after it does to the segments before it. -/
def enter (done : List (List Char)) (segment : List Char) : List (List Char) :=
  if isDoubleDot segment then shorten done
  else if isDot segment then done
  else done ++ [segment]

/-- What the last segment does to the segments before it. -/
def finish (done : List (List Char)) (segment : List Char) : List (List Char) :=
  if isDoubleDot segment || isDot segment then enter done segment ++ [[]] else done ++ [segment]

/-- The path that segments lead to from `done`, dots being followed. -/
def follow (done segments : List (List Char)) : List (List Char) :=
  finish (segments.dropLast.foldl enter done) (segments.getLast?.getD [])

def isSlash (c : Char) : Bool :=
  c = '/' || c = '\\'

def splitSlashes (s : List Char) : List (List Char) :=
  s.splitOnP isSlash

/-- The path that a text names from `done`; a first slash is not part of it. -/
def pathFrom (done : List (List Char)) (s : List Char) : List (List Char) :=
  follow done ((splitSlashes s).map (percentEncode inPathSet))

/-- Tabs and ends of lines count nowhere in a URL. -/
def isIgnored (c : Char) : Bool :=
  c = '\t' || c = '\n' || c = '\r'

/-- A path without an empty last segment, except if it is the only one. -/
def popEmpty (path : List (List Char)) : List (List Char) :=
  if path.getLast? = some [] ∧ path.length ≠ 1 then path.dropLast else path

/-- A path with one segment more, in which slashes and percent signs are encoded. Segments that
are dots are left out. -/
def pushSegment (path : List (List Char)) (segment : List Char) : List (List Char) :=
  if segment = ['.'] ∨ segment = ['.', '.'] then path
  else
    finish (if path = [[]] then [] else path)
      (percentEncode inSegmentSet (segment.filter (! isIgnored ·)))

def pathText (path : List (List Char)) : List Char :=
  path.flatMap ('/' :: ·)

end FileLease.Url
