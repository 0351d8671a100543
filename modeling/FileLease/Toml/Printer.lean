import FileLease.Text.Numeral

/-! # Writing TOML

A string is written in the first of these forms that can hold it: between quotation marks without
escapes, between apostrophes, over several lines in either way, and at last with escapes. -/
namespace FileLease.Toml
open Text

inductive Plain
  | text (s : String)
  | integer (n : Nat)

/-- Controls other than the end of a line, which need an escape. -/
def needsEscape (c : Char) : Bool :=
  (c.toNat < 0x20 && c ≠ '\n') || c.toNat = 0x7F

def longestRun (c : Char) (s : List Char) : Nat :=
  (s.foldl (fun (run, longest) d =>
    if d = c then (run + 1, max longest (run + 1)) else (0, longest)) (0, 0)).2

def threeTimes (c : Char) : List Char := [c, c, c]

/-- A control by its letter or by its code point. -/
def escapeControl (c : Char) : List Char :=
  if c.toNat = 0x08 then ['\\', 'b']
  else if c = '\t' then ['\\', 't']
  else if c = '\n' then ['\\', 'n']
  else if c.toNat = 0x0c then ['\\', 'f']
  else if c = '\r' then ['\\', 'r']
  else '\\' :: 'u' :: hexUpper 4 c.toNat

/-- A text with escapes. Over several lines ends of lines stay, and of quotation marks in a row
every third is escaped; `run` counts those before. -/
def escapeText (lines : Bool) (run : Nat) : List Char → List Char
  | [] => []
  | c :: s =>
    if c = '\x22' then
      if lines && run < 2 then c :: escapeText lines (run + 1) s
      else '\\' :: c :: escapeText lines 0 s
    else if c = '\\' then '\\' :: '\\' :: escapeText lines 0 s
    else if needsEscape c || (c = '\n' && !lines) then escapeControl c ++ escapeText lines 0 s
    else c :: escapeText lines 0 s

/-- A text between quotation marks or apostrophes, three at each end if it may have several lines. A
text with ends of lines starts on a new one. -/
def enclosed (mark : Char) (lines : Bool) (s body : List Char) : List Char :=
  let ends := if lines then threeTimes mark else [mark]
  ends ++ (if lines && s.contains '\n' then ['\n'] else []) ++ body ++ ends

def textValue (s : List Char) : List Char :=
  let plain := !s.any needsEscape
  let oneLine := !s.contains '\n'
  let quotes := longestRun '\x22' s
  let apostrophes := longestRun '\'' s
  let backslashes := s.contains '\\'
  if plain && oneLine && !backslashes && quotes = 0 then enclosed '\x22' false s s
  else if plain && oneLine && apostrophes = 0 then enclosed '\'' false s s
  else if plain && !backslashes && quotes ≤ 2 then enclosed '\x22' true s s
  else if plain && apostrophes ≤ 2 then enclosed '\'' true s s
  else enclosed '\x22' (!oneLine) s (escapeText (!oneLine) 0 s)

def plainValue : Plain → List Char
  | .text s => textValue s.toList
  | .integer n => decimal n

def document (lines : List (String × Plain)) : List Char :=
  lines.flatMap fun (key, value) => key.toList ++ ' ' :: '=' :: ' ' :: plainValue value ++ ['\n']

end FileLease.Toml
