import FileLease.Call

/-! # Calls answered from a list of prepared replies -/
namespace FileLease

/-- A prepared reply: to acquire, release and change, to break, or a failure. -/
inductive ScriptedReply
  | lease (reply : LeaseReply)
  | broken (seconds : UInt32)
  | failure (error : TransportError)

/-- The answer to a call; a reply made for another sort of call counts as one without content. -/
def ScriptedReply.answer : ScriptedReply → (c : Call) → Except TransportError c.Answer
  | .failure e, _ => .error e
  | .lease reply, .acquire .. => .ok reply
  | .lease reply, .release .. => .ok reply
  | .lease reply, .change .. => .ok reply
  | .lease _, .break .. => .ok 0
  | .broken _, .acquire .. => .ok ⟨none, "", .epoch⟩
  | .broken _, .release .. => .ok ⟨none, "", .epoch⟩
  | .broken _, .change .. => .ok ⟨none, "", .epoch⟩
  | .broken seconds, .break .. => .ok seconds

def Script.transport : Transport (List ScriptedReply) := fun c replies =>
  match replies with
  | [] => (.error (.invalidRequest "no scripted reply"), [])
  | reply :: rest => (reply.answer c, rest)

end FileLease
