import FileLease.Proofs.HandleTurns
import FileLease.Proofs.WireReplies
import Mathlib.Data.List.Forall2

/-!
# Calls over HTTP

A call is one request, which carries what is asked, and its answer is what the reply tells.
-/
namespace FileLease

def Call.leaseId? : Call → Option String
  | .release _ leaseId _ => some leaseId
  | .change _ leaseId _ _ => some leaseId
  | .acquire .. => none
  | .break .. => none

def Call.proposedId? : Call → Option String
  | .acquire _ _ _ proposed => some proposed
  | .change _ _ proposed _ => some proposed
  | .release .. => none
  | .break .. => none

namespace Http
open Text

def Request.values (r : Request) (name : String) : List (List UInt8) :=
  (r.headers.filter (·.named name)).map (·.value)

/-- A request that asks for what a call asks for: each header is there once, or not at all. -/
structure Request.Carries (r : Request) (c : Call) : Prop where
  method : r.method = .put
  action : r.values "x-ms-lease-action" = [bytesOf c.action]
  leaseId : r.values "x-ms-lease-id" = c.leaseId?.toList.map bytesOf
  proposedId : r.values "x-ms-proposed-lease-id" = c.proposedId?.toList.map bytesOf

theorem isHeaderText_of_plain {s : String} (h : Plain s.toList) : isHeaderText s = true := by
  rw [isHeaderText, List.all_eq_true]
  intro c hc
  have := h c hc
  simp only [Bool.or_eq_true, Bool.and_eq_true, decide_eq_true_eq]
  omega

theorem plain_base64Digit (n : Nat) :
    32 ≤ (base64Digit n).toNat ∧ (base64Digit n).toNat < 127 := by
  have all : ∀ n < 64, 32 ≤ (base64Digit n).toNat ∧ (base64Digit n).toNat < 127 := by decide
  by_cases hn : n < 64
  · exact all n hn
  · have last : base64Digit n = '/' := by
      rw [base64Digit, if_neg (by omega), if_neg (by omega), if_neg (by omega), if_neg (by omega)]
    rw [last]
    decide

theorem plain_base64 (bytes : List UInt8) : Plain (base64 bytes) := by
  fun_induction base64 bytes <;> simp_all [plain_base64Digit]

/-- Name and password are sent in a header that can be sent whatever they are. -/
theorem authorization_spec (url : Url) :
    ∀ h ∈ Client.authorization url, h.1 = "authorization" ∧ isHeaderText h.2 = true := by
  intro h hh
  unfold Client.authorization at hh
  split at hh
  · cases hh
  · cases hh
  · obtain rfl := List.mem_singleton.mp hh
    refine ⟨rfl, isHeaderText_of_plain ?_⟩
    simp [plain_base64]

structure Client.CanSend (c : Client) : Prop where
  userAgent : isHeaderText c.userAgent = true
  apiVersion : isHeaderText c.apiVersion = true

variable {c : Client} {call : Call} {requestId : String}

theorem values_of_texts (url : Url) (texts : List (String × String)) (name : String) :
    Request.values ⟨.put, url, texts.map fun h => .ofText h.1 h.2⟩ name =
      (texts.filter (sameName ·.1 name)).map (bytesOf ·.2) := by
  rw [Request.values, List.filter_map, List.map_map]
  rfl

theorem values_headers (c : Client) (call : Call) (requestId : String) (url : Url) {name : String}
    (other : sameName "authorization" name = false) :
    Request.values ⟨.put, url, (c.headers call requestId).map fun h => .ofText h.1 h.2⟩ name =
      ([("user-agent", c.userAgent), ("x-ms-lease-action", call.action),
        ("x-ms-version", c.apiVersion), ("x-ms-client-request-id", requestId),
        ("content-length", "0")].filter (sameName ·.1 name)).map (bytesOf ·.2) ++
      ((Client.callHeaders call).filter (sameName ·.1 name)).map (bytesOf ·.2) := by
  have none : (Client.authorization c.serviceUrl).filter (sameName ·.1 name) = [] := by
    rw [List.filter_eq_nil_iff]
    intro h hh
    simp [(authorization_spec c.serviceUrl h hh).1, other]
  rw [values_of_texts, Client.headers, List.filter_append, List.filter_append, none,
    List.append_nil, List.map_append]

theorem carries_headers (c : Client) (call : Call) (requestId : String) (url : Url) :
    Request.Carries ⟨.put, url, (c.headers call requestId).map fun h => .ofText h.1 h.2⟩ call := by
  refine ⟨rfl, ?_, ?_, ?_⟩
  · rw [values_headers c call requestId url (by decide)]
    cases call <;> simp +decide [Client.callHeaders]
  · rw [values_headers c call requestId url (by decide)]
    cases call <;> simp +decide [Client.callHeaders, Call.leaseId?]
  · rw [values_headers c call requestId url (by decide)]
    cases call <;> simp +decide [Client.callHeaders, Call.proposedId?]

def SendableIds (call : Call) : Prop :=
  (∀ id, call.leaseId? = some id → isHeaderText id = true) ∧
    ∀ id, call.proposedId? = some id → isHeaderText id = true

theorem isHeaderText_duration (duration : LeaseDuration) : isHeaderText duration.text = true := by
  cases duration with
  | infinite => decide
  | fixed seconds =>
    apply isHeaderText_of_plain
    rw [LeaseDuration.text, String.toList_ofList]
    exact plain_decimal _

theorem isHeaderText_action (call : Call) : isHeaderText call.action = true := by
  have all : ∀ action ∈ ["acquire", "release", "change", "break"], isHeaderText action = true := by
    decide
  cases call <;> exact all _ (by simp [Call.action])

theorem callHeaders_text (ids : SendableIds call) :
    ∀ h ∈ Client.callHeaders call, isHeaderText h.2 = true := by
  obtain ⟨presented, proposed⟩ := ids
  cases call with
  | acquire p timeout duration id =>
    simpa [Client.callHeaders, isHeaderText_duration] using proposed id rfl
  | release p id timeout => simpa [Client.callHeaders] using presented id rfl
  | change p id id' timeout =>
    simpa [Client.callHeaders] using And.intro (presented id rfl) (proposed id' rfl)
  | «break» p timeout => simp [Client.callHeaders]

/-- A call is made into a request that carries it. -/
theorem request?_carries (can : c.CanSend) (ids : SendableIds call)
    (named : isHeaderText requestId = true) :
    ∃ request, c.request? call requestId = some request ∧ request.Carries call := by
  have zero : isHeaderText "0" = true := by decide
  have texts : (c.headers call requestId).all (fun h => isHeaderText h.2) = true := by
    rw [Client.headers, List.all_append, List.all_append, Bool.and_eq_true, Bool.and_eq_true]
    refine ⟨⟨?_, List.all_eq_true.mpr (callHeaders_text ids)⟩, List.all_eq_true.mpr fun h hh =>
      (authorization_spec c.serviceUrl h hh).2⟩
    simp [can.userAgent, can.apiVersion, isHeaderText_action, named, zero]
  rw [Client.request?, if_pos texts]
  exact ⟨_, rfl, carries_headers c call requestId _⟩

def LegibleAnswer (call : Call) : Except TransportError call.Answer → Prop
  | .ok answer => ∀ reply, call.reply? answer = some reply → Legible reply
  | .error e => LegibleError e

theorem answerOf_tells {r : Reply} {answer : call.Answer} (tells : r.Tells call (.ok answer))
    (legible : LegibleAnswer call (.ok answer)) :
    r.isSuccess = true ∧ Client.answerOf r.headers call = .ok answer := by
  cases call with
  | acquire p timeout duration id =>
    exact ⟨Reply.Grants.status tells, leaseReply_grants tells (legible answer rfl)⟩
  | release p id timeout =>
    exact ⟨Reply.Grants.status tells, leaseReply_grants tells (legible answer rfl)⟩
  | change p id id' timeout =>
    exact ⟨Reply.Grants.status tells, leaseReply_grants tells (legible answer rfl)⟩
  | «break» p timeout => exact ⟨Reply.Breaks.status tells, leaseTime_breaks tells⟩

theorem not_redirect_of_isSuccess {r : Reply} (success : r.isSuccess = true) :
    r.status ∉ redirectStatuses := by
  simp only [Reply.isSuccess, Bool.and_eq_true, decide_eq_true_eq] at success
  simp only [redirectStatuses, List.mem_cons, List.not_mem_nil, or_false]
  omega

theorem refuses_of_tells {r : Reply} {status : Nat} {code message : String}
    (tells : r.Tells call (.error (.refused status (some code) message))) :
    r.Refuses status code message := by
  cases call <;> exact tells

theorem refusal_tells {r : Reply} {e : TransportError} (tells : r.Tells call (.error e))
    (legible : LegibleAnswer call (.error e)) :
    r.isSuccess = false ∧ r.status ∉ redirectStatuses ∧ r.refusal = e := by
  obtain ⟨status, code, message, rfl, sound⟩ := legible
  have refuses := refuses_of_tells tells
  refine ⟨?_, ?_, refusal_refuses refuses sound⟩
  · have failed := sound.status.1
    rw [Reply.isSuccess, refuses.status]
    simpa using failed
  · rw [refuses.status]
    exact sound.status.2

/-- A reply that does not send the client elsewhere is the answer to the request. -/
theorem exchange_reply {n : Network} {reply : Reply} {rest : List (Option Reply)}
    (peer : n.peer = .serving (some reply :: rest)) (final : reply.status ∉ redirectStatuses)
    (limit redirects : Nat) (request : Request) :
    n.exchange limit redirects request =
      (.ok reply, { n with log := n.log ++ [request], peer := .serving rest }) := by
  have delivered : n.deliver limit request.url request =
      (.ok reply, { n with log := n.log ++ [request], peer := .serving rest }) := by
    simp only [Network.deliver, peer, List.head?_cons, Option.join_some, List.tail_cons]
  have stays : reply.location? request.url = none := by
    simp only [Reply.location?, if_pos final]
    rfl
  unfold Network.exchange Network.follow
  simp only [delivered, stays]

variable {n : Network} {reply : Reply} {rest : List (Option Reply)}

/-- What a call gets that is answered by a reply which tells an answer: one request is sent, and the
answer is that of the reply. -/
theorem transport_tells {answer : Except TransportError call.Answer} (can : c.CanSend)
    (ids : SendableIds call) (named : isHeaderText (n.requestId n.sent) = true)
    (peer : n.peer = .serving (some reply :: rest)) (tells : reply.Tells call answer)
    (legible : LegibleAnswer call answer) :
    ∃ request, request.Carries call ∧ c.transport call n = (answer,
      ⟨.serving rest, n.log ++ [request], n.waited, n.sent + 1, n.requestId⟩) := by
  obtain ⟨request, made, carries⟩ := request?_carries can ids named
  refine ⟨request, carries, ?_⟩
  cases answer with
  | ok answer =>
    obtain ⟨success, read⟩ := answerOf_tells tells legible
    have final := not_redirect_of_isSuccess success
    have arrived := @exchange_reply { n with sent := n.sent + 1 } reply rest peer final
    simp only [Client.transport, Client.send, made, arrived, success, if_true, Except.bind, read]
  | error e =>
    obtain ⟨failed, final, read⟩ := refusal_tells tells legible
    have arrived := @exchange_reply { n with sent := n.sent + 1 } reply rest peer final
    simp only [Client.transport, Client.send, made, arrived, failed, read]
    rfl

/-- A reply that tells an answer; failures that are no refusals become one without a code. -/
def telling : (call : Call) → Except TransportError call.Answer → Reply
  | .acquire .., .ok answer => granting answer
  | .release .., .ok answer => granting answer
  | .change .., .ok answer => granting answer
  | .break .., .ok seconds => breaking seconds
  | _, .error (.refused status (some code) message) => refusing status code message
  | _, .error e => ⟨500, [], bytesOf e.message, true⟩

/-- Every answer that can be told is told by a reply. -/
theorem telling_tells {answer : Except TransportError call.Answer}
    (legible : LegibleAnswer call answer) : (telling call answer).Tells call answer := by
  cases answer with
  | ok answer =>
    cases call with
    | acquire p timeout duration id => exact granting_grants answer
    | release p id timeout => exact granting_grants answer
    | change p id y timeout => exact granting_grants answer
    | «break» p timeout => exact breaking_breaks answer
  | error e =>
    obtain ⟨status, code, message, rfl, -⟩ := legible
    cases call <;> exact refusing_refuses status code message

end Http

def Turn.call (x : Turn) : Call :=
  x.ask.call x.before

namespace Handle

variable {ω ω' : Type} {a : Ask} {h : Handle}

theorem turn_world {t : Transport ω} {w w₂ : ω}
    {answer : Except TransportError (a.call h).Answer} (ht : t (a.call h) w = (answer, w₂)) :
    (h.turn t a w).2 = w₂ := by
  cases answer with
  | error e => rw [turn_error ht]
  | ok answer => rw [turn_ok ht]

/-- An operation takes the same turn wherever its call gets the same answer. -/
theorem turn_congr {t : Transport ω} {t' : Transport ω'} {w w₂ : ω} {v v₂ : ω'}
    {answer : Except TransportError (a.call h).Answer} (ht : t (a.call h) w = (answer, w₂))
    (ht' : t' (a.call h) v = (answer, v₂)) : (h.turn t' a v).1 = (h.turn t a w).1 := by
  cases answer with
  | error e => rw [turn_error ht, turn_error ht']
  | ok answer => rw [turn_ok ht, turn_ok ht']

theorem turn_answer {t : Transport ω} {w w₂ : ω}
    {answer : Except TransportError (a.call h).Answer} (ht : t (a.call h) w = (answer, w₂)) :
    (h.turn t a w).1.answer = answer := by
  show (t (a.call h) w).1 = answer
  rw [ht]

/-- The ids that an operation sends can be sent if those of the handle and the operation can. -/
theorem sendableIds_call (id : Http.isHeaderText h.id = true)
    (proposal : ∀ y, a.op = .change y → Http.isHeaderText y = true) :
    Http.SendableIds (a.call h) := by
  obtain ⟨op, timeout⟩ := a
  cases op with
  | acquire => exact ⟨nofun, by rintro _ ⟨⟩; exact id⟩
  | release => exact ⟨by rintro _ ⟨⟩; exact id, nofun⟩
  | change y => exact ⟨by rintro _ ⟨⟩; exact id, by rintro _ ⟨⟩; exact proposal y rfl⟩
  | «break» => exact ⟨nofun, nofun⟩

/-- After a turn whose answer can be told the id of the handle is still one that can be sent. -/
theorem turn_id_isHeaderText {t : Transport ω} {w w₂ : ω}
    {answer : Except TransportError (a.call h).Answer} (ht : t (a.call h) w = (answer, w₂))
    (legible : Http.LegibleAnswer (a.call h) answer) (id : Http.isHeaderText h.id = true)
    (proposal : ∀ y, a.op = .change y → Http.isHeaderText y = true) :
    Http.isHeaderText (h.turn t a w).1.after.id = true := by
  have own : Http.isHeaderText (a.op.ownId h.id) = true := by
    cases ho : a.op with
    | acquire => exact id
    | release => exact id
    | change y => exact proposal y ho
    | «break» => exact id
  cases hr : (h.turn t a w).1.reply? with
  | none =>
    rw [turn_after, Turn.grant?, hr]
    exact id
  | some reply =>
    rw [turn_replied hr]
    have sound : Http.Legible reply := by
      cases answer with
      | error e =>
        rw [turn_error ht] at hr
        cases hr
      | ok answer =>
        rw [turn_ok ht] at hr
        exact legible reply hr
    simp only [settle]
    split
    · rename_i echo hl
      split
      · exact own
      · exact Http.isHeaderText_of_plain (sound.leaseId echo hl).1
    · exact own

def replies (xs : List Turn) : List Http.Reply :=
  xs.map fun x => Http.telling x.call x.answer

theorem replies_tell {xs : List Turn}
    (legible : ∀ x ∈ xs, Http.LegibleAnswer x.call x.answer) :
    List.Forall₂ (fun x r => r.Tells x.call x.answer) xs (replies xs) := by
  induction xs with
  | nil => exact .nil
  | cons x xs ih =>
    exact .cons (Http.telling_tells (legible x List.mem_cons_self))
      (ih fun y hy => legible y (List.mem_cons_of_mem x hy))

/-- A server that tells a handle the answers of another way to make calls makes it take the same
turns, and is asked for the same calls. -/
theorem turns_agree {c : Http.Client} (can : c.CanSend) {t : Transport ω} (asks : List Ask)
    {h : Handle} {w : ω} {n : Http.Network} {rs : List Http.Reply}
    (id : Http.isHeaderText h.id = true)
    (proposals : ∀ a ∈ asks, ∀ y, a.op = .change y → Http.isHeaderText y = true)
    (named : ∀ k, Http.isHeaderText (n.requestId k) = true)
    (legible : ∀ x ∈ (h.turns t asks w).1, Http.LegibleAnswer x.call x.answer)
    (written : List.Forall₂ (fun x r => r.Tells x.call x.answer) (h.turns t asks w).1 rs)
    (peer : n.peer = .serving (rs.map some)) :
    (h.turns c.transport asks n).1 = (h.turns t asks w).1 ∧
      ∃ requests, (h.turns c.transport asks n).2.log = n.log ++ requests ∧
        List.Forall₂ (fun x r => r.Carries x.call) (h.turns t asks w).1 requests := by
  induction asks generalizing h w n rs with
  | nil => exact ⟨rfl, [], (List.append_nil _).symm, .nil⟩
  | cons a asks ih =>
    rcases ht : t (a.call h) w with ⟨answer, w'⟩
    have proposal := proposals a List.mem_cons_self
    rw [turns_cons, turn_world ht] at written legible
    cases rs with
    | nil => cases written
    | cons r rs =>
      cases written with
      | cons tells written =>
        have told : r.Tells (a.call h) (h.turn t a w).1.answer := tells
        have readable : Http.LegibleAnswer (a.call h) (h.turn t a w).1.answer :=
          legible _ List.mem_cons_self
        rw [turn_answer ht] at told readable
        obtain ⟨request, carries, sent⟩ := Http.transport_tells can (sendableIds_call id proposal)
          (named n.sent) peer told readable
        -- after the turn both handles are in one state, and the replies left are for the turns left
        have same := turn_congr ht sent
        obtain ⟨agree, requests, log, carried⟩ := @ih _ w'
          ⟨.serving (rs.map some), n.log ++ [request], n.waited, n.sent + 1, n.requestId⟩ rs
          (turn_id_isHeaderText ht readable id proposal)
          (fun b hb => proposals b (List.mem_cons_of_mem a hb)) named
          (fun x hx => legible x (List.mem_cons_of_mem _ hx)) written rfl
        rw [turns_cons, turns_cons_world, turn_world sent, same, turns_cons, turn_world ht]
        refine ⟨by rw [agree], request :: requests, ?_, .cons carries carried⟩
        rw [log, List.append_assoc]
        rfl

end Handle
end FileLease
