import FileLease.Url.Percent

/-! # Queries as lists of names and values -/
namespace FileLease.Url
open Text

/-- What a query is made of: name and value joined by `=`. -/
def formPair (name value : String) : List Char :=
  name.toList ++ '=' :: value.toList

/-- A query with a pair at its end; `&` separates it from what is there. -/
def appendPair (query : Option (List Char)) (name value : String) : List Char :=
  match query.getD [] with
  | [] => formPair name value
  | before => before ++ '&' :: formPair name value

/-- A name or a value as it is meant: `+` is a space, and percent encoding is undone. -/
def formDecode (s : List Char) : List UInt8 :=
  decodeBytes ((s.map fun c => if c = '+' then ' ' else c).flatMap String.utf8EncodeChar)

/-- The name in front of the first `=` of a piece of a query, and the value behind it. -/
def formEntry (piece : List Char) : List UInt8 × List UInt8 :=
  (formDecode (piece.takeWhile (· ≠ '=')), formDecode ((piece.dropWhile (· ≠ '=')).drop 1))

/-- The names and values of a query; empty pieces between `&` do not count. -/
def formPairs (query : List Char) : List (List UInt8 × List UInt8) :=
  ((query.splitOn '&').filter (! ·.isEmpty)).map formEntry

end FileLease.Url
