import FileLease.Text.Numeral
import FileLease.Text.Quoted

/-! # Why a call got no usable answer -/
namespace FileLease
open Text

/-- Why a request was not sent, or not answered. -/
inductive SendFailure
  | unbuildable
  | unanswered (url : String)
  | redirected (url : String)
  | misdirected (url : String)
  deriving DecidableEq, Repr

def SendFailure.message : SendFailure → String
  | .unbuildable => "builder error"
  | .unanswered url => "error sending request for url (" ++ url ++ ")"
  | .redirected url => "error following redirect for url (" ++ url ++ ")"
  | .misdirected url => "builder error for url (" ++ url ++ ")"

/-- Why a call failed, in the words of the way it was made. A refusal is the
service's verdict, all else means that there is none. -/
inductive TransportError
  | request (cause : SendFailure)
  | timeout
  | refused (status : Nat) (code : Option String) (message : String)
  | missingHeader (name : String)
  | invalidHeader (name value : String)
  | invalidRequest (text : String)
  deriving DecidableEq, Repr

def TransportError.message : TransportError → String
  | .request cause => "request failed: " ++ cause.message
  | .timeout => "request timed out"
  | .refused status _ message => "HTTP " ++ String.ofList (decimal status) ++ ": " ++ message
  | .missingHeader name => "missing response header: " ++ name
  | .invalidHeader name value => "invalid response header " ++ name ++ ": " ++ quoted value
  | .invalidRequest text => "invalid request: " ++ text

end FileLease
