import FileLease.Http.Message
import FileLease.Text.Charset

/-! # What a refusal says: its code and its message -/
namespace FileLease.Http
open Text

/-- The text before the first occurrence of a piece, and the text after it. -/
def splitAt? (piece : List Char) : List Char → Option (List Char × List Char)
  | [] => if piece.isEmpty then some ([], []) else none
  | c :: s =>
    if piece.isPrefixOf (c :: s) then some ([], (c :: s).drop piece.length)
    else (splitAt? piece s).map fun (before, after) => (c :: before, after)

/-- The text of the first element of a name, without blanks at its ends. -/
def elementText? (body name : List Char) : Option (List Char) := do
  let (_, after) ← splitAt? ('<' :: name ++ ['>']) body
  let (inside, _) ← splitAt? ('<' :: '/' :: name ++ ['>']) after
  return strip isBlank inside

/-- The message of a refusal: its element, else the body, else the words for the status. -/
def refusalMessage (body : List Char) (reason : Option String) : String :=
  match elementText? body ['M', 'e', 's', 's', 'a', 'g', 'e'] with
  | some message => String.ofList message
  | none =>
    let body := strip isBlank body
    if body.isEmpty then reason.getD "request rejected" else String.ofList body

/-- The code of a refusal: that of the header, or that of the body if there is no header. -/
def refusalCode? (headers : List Header) (body : List Char) : Option String :=
  (headerText? headers errorCodeName <|>
    (elementText? body ['C', 'o', 'd', 'e']).map String.ofList).filter (! ·.isEmpty)

/-- The text of a body; one that is not whole counts as empty. -/
def Reply.text (r : Reply) : List Char :=
  if r.whole then decodeBody (headerText? r.headers "Content-Type") r.body else []

def Reply.refusal (r : Reply) : TransportError :=
  .refused r.status (refusalCode? r.headers r.text) (refusalMessage r.text (reason? r.status))

end FileLease.Http
