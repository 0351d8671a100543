import FileLease.Program
import FileLease.Proofs.RedirectChains

/-!
# Where the token is printed

Two configurations that differ in the token alone make the program do and print the same. Only the
complaint about a request that was sent or redirected in vain differs, if the URL that it quotes has
the query of the lease: the token is part of it.
-/
namespace FileLease

namespace Url

variable {q₁ q₂ : List Char} {u₁ u₂ : Url}

/-- URLs that are the same, or are so but for the queries `q₁` and `q₂`. -/
def Twins (q₁ q₂ : List Char) (u₁ u₂ : Url) : Prop :=
  u₁ = u₂ ∨ ∃ u : Url, u₁ = { u with query := some q₁ } ∧ u₂ = { u with query := some q₂ }

inductive Place.Twins (q₁ q₂ : List Char) : Place → Place → Prop
  | web {u₁ u₂ : Url} (twins : u₁.Twins q₁ q₂ u₂) : Place.Twins q₁ q₂ (.web u₁) (.web u₂)
  | other (text : String) : Place.Twins q₁ q₂ (.other text) (.other text)
  | faulty : Place.Twins q₁ q₂ .faulty .faulty

theorem Place.Twins.refl (place : Place) : place.Twins q₁ q₂ place := by
  cases place with
  | web u => exact .web (.inl rfl)
  | other text => exact .other text
  | faulty => exact .faulty

/-- A reference leads to twins from twins: the query is kept only if it names nothing at all. -/
theorem twins_placeFrom? (twins : u₁.Twins q₁ q₂ u₂) (r : Reference) :
    Option.Rel (Place.Twins q₁ q₂) (r.placeFrom? u₁) (r.placeFrom? u₂) := by
  obtain rfl | ⟨u, rfl, rfl⟩ := twins
  · cases r.placeFrom? u₁ with
    | none => exact .none
    | some place => exact .some (.refl place)
  · unfold Reference.placeFrom?
    split
    · exact .some (.refl _)
    · exact .none
    · refine .some (.web ?_)
      dsimp only
      split
      · exact .inr ⟨{ u with fragment := none }, rfl, rfl⟩
      · exact .inl rfl
      · exact .inl rfl
      · exact .inl rfl

/-- The texts of URLs that differ in the query differ. -/
theorem text_ne_of_query (u : Url) (ne : q₁ ≠ q₂) :
    ({ u with query := some q₁ } : Url).text ≠ ({ u with query := some q₂ } : Url).text := by
  intro same
  have same := String.ofList_injective same
  simp only [characters, userinfoText, portText, markedText, List.append_assoc,
    List.append_cancel_left_eq, List.cons_append, List.cons.injEq, true_and,
    List.append_cancel_right_eq] at same
  exact ne same

end Url

namespace Http

variable {q₁ q₂ : List Char}

theorem twins_location? {u₁ u₂ : Url} (reply : Reply) (twins : u₁.Twins q₁ q₂ u₂) :
    Option.Rel (Url.Place.Twins q₁ q₂) (reply.location? u₁) (reply.location? u₂) := by
  unfold Reply.location?
  by_cases status : reply.status ∈ redirectStatuses
  · simp only [status, not_true_eq_false, if_false]
    cases reply.headers.find? (·.named "Location") with
    | none => exact .none
    | some header =>
      cases ht : String.fromUTF8? (ByteArray.mk header.value.toArray) with
      | none =>
        simp only [ht, Option.bind_eq_bind, Option.bind_some, Option.bind_none]
        exact .none
      | some text =>
        simp only [ht, Option.bind_eq_bind, Option.bind_some]
        cases Url.readReference? text.toList with
        | none => exact .none
        | some reference => exact Url.twins_placeFrom? twins reference
  · simp only [status, not_false_eq_true, if_true]
    exact .none

/-- Failures to send that quote URLs which differ in the query. -/
inductive QuoteTwins (q₁ q₂ : List Char) : SendFailure → SendFailure → Prop
  | unanswered (u : Url) : QuoteTwins q₁ q₂ (.unanswered { u with query := some q₁ }.text)
      (.unanswered { u with query := some q₂ }.text)
  | redirected (u : Url) : QuoteTwins q₁ q₂ (.redirected { u with query := some q₁ }.text)
      (.redirected { u with query := some q₂ }.text)
  | misdirected (u : Url) : QuoteTwins q₁ q₂ (.misdirected { u with query := some q₁ }.text)
      (.misdirected { u with query := some q₂ }.text)

/-- Results that are the same, or failures to send that quote such URLs. -/
def SameOrQuoting (q₁ q₂ : List Char) {α ε : Type} (of : SendFailure → ε) (a b : Except ε α) :
    Prop :=
  a = b ∨ ∃ e₁ e₂, QuoteTwins q₁ q₂ e₁ e₂ ∧ a = .error (of e₁) ∧ b = .error (of e₂)

variable {u₁ u₂ : Url} {α ε : Type} {of : SendFailure → ε}

theorem quoting {told : String → SendFailure} (twins : u₁.Twins q₁ q₂ u₂)
    (quote : ∀ u : Url, QuoteTwins q₁ q₂ (told { u with query := some q₁ }.text)
      (told { u with query := some q₂ }.text)) :
    SameOrQuoting q₁ q₂ of (.error (of (told u₁.text)) : Except ε α)
      (.error (of (told u₂.text))) := by
  obtain rfl | ⟨u, rfl, rfl⟩ := twins
  · exact .inl rfl
  · exact .inr ⟨_, _, quote u, rfl, rfl⟩

namespace Network

variable {n₁ n₂ : Network} {first₁ first₂ r₁ r₂ : Request}

/-- The same peer gives the same to requests that are told under twin URLs, and is the same
afterwards. -/
theorem deliver_twins (limit : Nat) (r₁ r₂ : Request) (peer : n₁.peer = n₂.peer)
    (twins : u₁.Twins q₁ q₂ u₂) :
    SameOrQuoting q₁ q₂ .request (n₁.deliver limit u₁ r₁).1 (n₂.deliver limit u₂ r₂).1 ∧
      (n₁.deliver limit u₁ r₁).2.peer = (n₂.deliver limit u₂ r₂).2.peer := by
  unfold deliver
  rw [peer]
  cases n₂.peer with
  | unreachable => exact ⟨quoting twins .unanswered, peer⟩
  | silent => exact ⟨.inl rfl, rfl⟩
  | serving replies =>
    dsimp only
    split
    · exact ⟨.inl rfl, rfl⟩
    · exact ⟨quoting twins .unanswered, rfl⟩

/-- Twins are sent along twin chains of redirects, which end alike. -/
theorem follow_twins (limit redirects : Nat) (peer : n₁.peer = n₂.peer)
    (begun : first₁.url.Twins q₁ q₂ first₂.url) (twins : r₁.url.Twins q₁ q₂ r₂.url) :
    SameOrQuoting q₁ q₂ .request (n₁.follow limit first₁ redirects r₁).1
      (n₂.follow limit first₂ redirects r₂).1 := by
  -- both have as many redirects left, so they go on, end and are given up together
  induction redirects using Nat.strongRecOn generalizing n₁ n₂ r₁ r₂ with
  | ind redirects ih =>
    obtain ⟨delivered, peer'⟩ := deliver_twins limit r₁ r₂ peer begun
    unfold follow
    generalize n₁.deliver limit first₁.url r₁ = delivery₁ at delivered peer'
    generalize n₂.deliver limit first₂.url r₂ = delivery₂ at delivered peer'
    obtain ⟨answer₁, m₁⟩ := delivery₁
    obtain ⟨answer₂, m₂⟩ := delivery₂
    obtain same | ⟨e₁, e₂, quote, failed₁, failed₂⟩ := delivered
    · obtain rfl : answer₁ = answer₂ := same
      cases answer₁ with
      | error e => exact .inl rfl
      | ok reply =>
        have places := twins_location? reply twins
        dsimp only
        generalize reply.location? r₁.url = place₁ at places
        generalize reply.location? r₂.url = place₂ at places
        cases places with
        | none => exact .inl rfl
        | some places =>
          cases places with
          | faulty => exact quoting begun .misdirected
          | other text =>
            cases redirects with
            | zero => exact quoting twins .redirected
            | succ redirects => exact .inl rfl
          | web twins' =>
            cases redirects with
            | zero => exact quoting twins .redirected
            | succ redirects => exact ih redirects redirects.lt_succ_self peer' twins'
    · obtain rfl : answer₁ = _ := failed₁
      obtain rfl : answer₂ = _ := failed₂
      exact .inr ⟨e₁, e₂, quote, rfl, rfl⟩

theorem exchange_twins (limit redirects : Nat) (peer : n₁.peer = n₂.peer)
    (twins : r₁.url.Twins q₁ q₂ r₂.url) :
    SameOrQuoting q₁ q₂ .request (n₁.exchange limit redirects r₁).1
      (n₂.exchange limit redirects r₂).1 :=
  follow_twins limit redirects peer twins twins

end Network

/-- Clients that differ in the token alone. -/
def Client.Twins (c₁ c₂ : Client) : Prop :=
  ∃ token, c₂ = { c₁ with sasToken := token }

variable {c₁ c₂ : Client}

/-- The request of a call, if it can be made, is the same but for the query. -/
theorem twins_request? (twins : c₁.Twins c₂) (call : Call) (requestId : String) :
    Option.Rel
      (fun r₁ r₂ => r₁.url.Twins (c₁.leaseQuery call.timeout) (c₂.leaseQuery call.timeout) r₂.url)
      (c₁.request? call requestId) (c₂.request? call requestId) := by
  obtain ⟨token, rfl⟩ := twins
  -- neither the headers nor the name and password in the URL are made from the token
  have headers : ({ c₁ with sasToken := token } : Client).headers call requestId =
      c₁.headers call requestId := rfl
  have authorization : Client.authorization
      (({ c₁ with sasToken := token } : Client).leaseUrl call.path call.timeout) =
      Client.authorization (c₁.leaseUrl call.path call.timeout) := rfl
  simp only [Client.request?, headers, authorization]
  split
  · refine .some (.inr ?_)
    dsimp only
    split
    · exact ⟨c₁.leaseUrl call.path call.timeout, rfl, rfl⟩
    · exact ⟨{ c₁.leaseUrl call.path call.timeout with username := [], password := none }, rfl, rfl⟩
  · exact .none

theorem SameOrQuoting.bind {β : Type} {a b : Except ε α} (same : SameOrQuoting q₁ q₂ of a b)
    (f : α → Except ε β) : SameOrQuoting q₁ q₂ of (a.bind f) (b.bind f) := by
  obtain rfl | ⟨e₁, e₂, quote, rfl, rfl⟩ := same
  · exact .inl rfl
  · exact .inr ⟨e₁, e₂, quote, rfl, rfl⟩

theorem twins_send (twins : c₁.Twins c₂) (call : Call) (n : Network) :
    SameOrQuoting (c₁.leaseQuery call.timeout) (c₂.leaseQuery call.timeout) .request
      (c₁.send call n).1 (c₂.send call n).1 := by
  have limit : c₂.limit call = c₁.limit call := by
    obtain ⟨token, rfl⟩ := twins
    rfl
  have requests := twins_request? twins call (n.requestId n.sent)
  generalize hr₁ : c₁.request? call (n.requestId n.sent) = request₁ at requests
  generalize hr₂ : c₂.request? call (n.requestId n.sent) = request₂ at requests
  cases requests with
  | none =>
    simp only [Client.send, hr₁, hr₂]
    exact .inl rfl
  | @some r₁ r₂ urls =>
    have answers := @Network.exchange_twins _ _ { n with sent := n.sent + 1 }
      { n with sent := n.sent + 1 } r₁ r₂ (c₁.limit call) maxRedirects rfl urls
    rcases he₁ : { n with sent := n.sent + 1 }.exchange (c₁.limit call) maxRedirects r₁ with
      ⟨answer₁, m₁⟩
    rcases he₂ : { n with sent := n.sent + 1 }.exchange (c₁.limit call) maxRedirects r₂ with
      ⟨answer₂, m₂⟩
    rw [he₁, he₂] at answers
    have read := answers.bind fun reply =>
      if reply.isSuccess then .ok reply.headers else .error reply.refusal
    simp only [Client.send, hr₁, hr₂, limit, he₁, he₂]
    cases answer₁ <;> cases answer₂ <;> exact read

theorem twins_transport (twins : c₁.Twins c₂) (call : Call) (n : Network) :
    SameOrQuoting (c₁.leaseQuery call.timeout) (c₂.leaseQuery call.timeout) .request
      (c₁.transport call n).1 (c₂.transport call n).1 :=
  (twins_send twins call n).bind fun headers => Client.answerOf headers call

/-- Settings that differ in the token make twin clients, or fail alike. -/
theorem twins_ofSettings (s : Settings) (t₁ t₂ : Option String) :
    (∃ f, Client.ofSettings { s with sasToken := t₁ } = .error f ∧
      Client.ofSettings { s with sasToken := t₂ } = .error f) ∨
    ∃ c₁ c₂, Client.ofSettings { s with sasToken := t₁ } = .ok c₁ ∧
      Client.ofSettings { s with sasToken := t₂ } = .ok c₂ ∧ c₁.Twins c₂ := by
  have checked (t : Option String) : ({ s with sasToken := t } : Settings).checked = s.checked := by
    simp only [Settings.checked, Settings.serviceUrl]
  rw [ofSettings_eq { s with sasToken := t₁ }, ofSettings_eq { s with sasToken := t₂ }, checked t₁,
    checked t₂]
  cases s.checked with
  | error e => exact .inl ⟨.config e, rfl, rfl⟩
  | ok url =>
    by_cases text : isHeaderText (Release.userAgent s.userAgentSuffix) = true
    · simp only [Except.mapError, Except.bind, text, if_true]
      exact .inr ⟨_, _, rfl, rfl, _, rfl⟩
    · simp only [Except.mapError, Except.bind, text]
      exact .inl ⟨_, rfl, rfl⟩

end Http

def Handle.outcome {ω : Type} (t : Transport ω) (op : Operation) (timeout : Option UInt32)
    (h : Handle) (w : ω) : Except Failure (Option UInt32 × Handle) :=
  (h.perform t op timeout w).1.map fun told => (told, (h.perform t op timeout w).2.1)

open Http in
theorem Handle.twins_outcome {c₁ c₂ : Client} (twins : c₁.Twins c₂) (op : Operation)
    (timeout : Option UInt32) (h : Handle) (n : Network) :
    SameOrQuoting (c₁.leaseQuery timeout) (c₂.leaseQuery timeout) (.transport ∘ .request)
      (h.outcome c₁.transport op timeout n) (h.outcome c₂.transport op timeout n) := by
  have same := twins_transport twins (op.call h timeout) n
  have own : (op.call h timeout).timeout = timeout := by cases op <;> rfl
  rw [own] at same
  rcases ht₁ : c₁.transport (op.call h timeout) n with ⟨answer₁, m₁⟩
  rcases ht₂ : c₂.transport (op.call h timeout) n with ⟨answer₂, m₂⟩
  simp only [outcome, perform, ht₁, ht₂]
  rw [ht₁, ht₂] at same
  obtain same | ⟨e₁, e₂, quote, failed₁, failed₂⟩ := same
  · obtain rfl : answer₁ = answer₂ := same
    cases answer₁ <;> exact .inl rfl
  · obtain rfl : answer₁ = _ := failed₁
    obtain rfl : answer₂ = _ := failed₂
    exact .inr ⟨e₁, e₂, quote, rfl, rfl⟩

namespace Http.QuoteTwins

variable {q₁ q₂ : List Char} {e₁ e₂ : SendFailure}

theorem eq_of_query (quote : QuoteTwins q₁ q₂ e₁ e₂) (same : q₁ = q₂) : e₁ = e₂ := by
  subst same
  cases quote <;> rfl

theorem message_ne (quote : QuoteTwins q₁ q₂ e₁ e₂) (ne : q₁ ≠ q₂) :
    (Failure.transport (.request e₁)).message ≠ (Failure.transport (.request e₂)).message := by
  cases quote with
  | unanswered u | redirected u | misdirected u =>
    unfold Failure.message TransportError.message SendFailure.message
    simp only [ne_eq, String.append_right_inj, String.append_left_inj]
    exact u.text_ne_of_query ne

end Http.QuoteTwins

namespace Program
open Http

structure Errand where
  file : String
  leaseId : Option String
  op : Operation
  timeout : Option UInt32

def errand? : Command → Option Errand
  | .acquire file leaseId timeout => some ⟨file, leaseId, .acquire, timeout⟩
  | .release file leaseId timeout => some ⟨file, some leaseId, .release, timeout⟩
  | .change file leaseId proposed timeout => some ⟨file, some leaseId, .change proposed, timeout⟩
  | .break file timeout => some ⟨file, none, .break, timeout⟩
  | .config _ => none

variable {s s₁ s₂ : Surroundings} {c : Command} {e : Errand}

def Errand.result (e : Errand) (settings : Settings) (freshId : String) (n : Network) :
    Except Failure Json :=
  (operate settings e.file e.leaseId freshId e.op e.timeout n).1

def told : Except Failure Json → Nat × String × List String
  | .ok document => (0, document.pretty ++ "\n", [])
  | .error f => (f.exitCode, "", [f.message])

def Finished.seen (f : Finished) : Nat × String × List String :=
  (f.exitCode, f.output, f.complaints)

theorem seen_errand (s : Surroundings) (he : errand? c = some e) :
    (runCommand s c).seen =
      told (e.result (Settings.load s.file s.environment).1 s.freshId s.network) := by
  cases c with
  | config init => cases he
  | _ =>
    cases he
    simp only [Errand.result, runCommand, Finished.seen]
    split <;> simp_all only [told]

variable {settings : Settings} {freshId : String} {client : Client} {h : Handle} {f : Failure}

theorem result_unbound (hb : bind settings e.file e.leaseId freshId = .error f) (n : Network) :
    e.result settings freshId n = .error f := by
  unfold Errand.result operate
  rw [hb]

theorem result_bound (hb : bind settings e.file e.leaseId freshId = .ok (client, h))
    (n : Network) : e.result settings freshId n =
      (h.outcome client.transport e.op (e.timeout <|> settings.leaseTimeout) n).map fun told =>
        document told.2 told.1 := by
  unfold Errand.result operate Handle.outcome
  rw [hb]
  dsimp only
  rcases h.perform client.transport e.op (e.timeout <|> settings.leaseTimeout) n with
    ⟨answer, h', n'⟩
  cases answer <;> rfl

/-- With another token a command fails before it sends anything, or is about the same handle, and a
client that is a twin. -/
theorem twins_bind (settings : Settings) (t₁ t₂ : Option String) (file : String)
    (leaseId : Option String) (freshId : String) :
    (∃ f, bind { settings with sasToken := t₁ } file leaseId freshId = .error f ∧
      bind { settings with sasToken := t₂ } file leaseId freshId = .error f) ∨
    ∃ c₁ c₂ h, bind { settings with sasToken := t₁ } file leaseId freshId = .ok (c₁, h) ∧
      bind { settings with sasToken := t₂ } file leaseId freshId = .ok (c₂, h) ∧
      Client.ofSettings { settings with sasToken := t₁ } = .ok c₁ ∧
      Client.ofSettings { settings with sasToken := t₂ } = .ok c₂ ∧ c₁.Twins c₂ := by
  unfold bind
  cases (Command.fileOf file).mapError Failure.config with
  | error f => exact .inl ⟨f, rfl, rfl⟩
  | ok path =>
    obtain ⟨f, failed₁, failed₂⟩ | ⟨c₁, c₂, made₁, made₂, twins⟩ := twins_ofSettings settings t₁ t₂
    · rw [failed₁, failed₂]
      exact .inl ⟨f, rfl, rfl⟩
    · rw [made₁, made₂]
      cases hb : Handle.bind (File.mk path).resource leaseId freshId with
      | error f =>
        simp only [hb, Bind.bind, Except.bind]
        exact .inl ⟨f, rfl, rfl⟩
      | ok h =>
        simp only [hb, Bind.bind, Except.bind]
        exact .inr ⟨c₁, c₂, h, rfl, rfl, rfl, rfl, twins⟩

/-- Results of an errand that differ are failures to send, which quote the queries of the lease. -/
theorem twins_result (e : Errand) (settings : Settings) (t₁ t₂ : Option String) (freshId : String)
    (n : Network) :
    e.result { settings with sasToken := t₁ } freshId n =
      e.result { settings with sasToken := t₂ } freshId n ∨
    ∃ c₁ c₂ timeout e₁ e₂, Client.ofSettings { settings with sasToken := t₁ } = .ok c₁ ∧
      Client.ofSettings { settings with sasToken := t₂ } = .ok c₂ ∧
      QuoteTwins (c₁.leaseQuery timeout) (c₂.leaseQuery timeout) e₁ e₂ ∧
      e.result { settings with sasToken := t₁ } freshId n = .error (.transport (.request e₁)) ∧
      e.result { settings with sasToken := t₂ } freshId n = .error (.transport (.request e₂)) := by
  obtain ⟨f, failed₁, failed₂⟩ | ⟨c₁, c₂, h, bound₁, bound₂, made₁, made₂, twins⟩ :=
    twins_bind settings t₁ t₂ e.file e.leaseId freshId
  · exact .inl ((result_unbound failed₁ n).trans (result_unbound failed₂ n).symm)
  · rw [result_bound bound₁, result_bound bound₂]
    obtain same | ⟨e₁, e₂, quote, lost₁, lost₂⟩ :=
      h.twins_outcome twins e.op (e.timeout <|> settings.leaseTimeout) n
    · exact .inl (congrArg _ same)
    · exact .inr ⟨c₁, c₂, _, e₁, e₂, made₁, made₂, quote, congrArg _ lost₁, congrArg _ lost₂⟩

/-- Surroundings that tell the program the same, but for a token. -/
structure Twins (settings : Settings) (t₁ t₂ : String) (s₁ s₂ : Surroundings) : Prop where
  words : s₁.words = s₂.words
  settings : ∃ warned,
    Settings.load s₁.file s₁.environment = ({ settings with sasToken := some t₁ }, warned) ∧
    Settings.load s₂.file s₂.environment = ({ settings with sasToken := some t₂ }, warned)
  file : s₁.file.isNone = s₂.file.isNone
  filePlace : s₁.filePlace = s₂.filePlace
  freshId : s₁.freshId = s₂.freshId
  network : s₁.network = s₂.network

/-- Complaints that quote the tokens of settings: a lease was asked for in vain. -/
def Betray (settings : Settings) (t₁ t₂ : String) (complaints₁ complaints₂ : List String) : Prop :=
  ∃ c₁ c₂ timeout e₁ e₂, Client.ofSettings { settings with sasToken := some t₁ } = .ok c₁ ∧
    Client.ofSettings { settings with sasToken := some t₂ } = .ok c₂ ∧
    c₁.leaseQuery timeout ≠ c₂.leaseQuery timeout ∧
    QuoteTwins (c₁.leaseQuery timeout) (c₂.leaseQuery timeout) e₁ e₂ ∧
    complaints₁ = [(Failure.transport (.request e₁)).message] ∧
    complaints₂ = [(Failure.transport (.request e₂)).message]

variable {t₁ t₂ : String}

theorem Betray.ne {complaints₁ complaints₂ : List String}
    (betray : Betray settings t₁ t₂ complaints₁ complaints₂) : complaints₁ ≠ complaints₂ := by
  obtain ⟨c₁, c₂, timeout, e₁, e₂, -, -, ne, quote, rfl, rfl⟩ := betray
  simpa using quote.message_ne ne

theorem twins_showConfig (twins : Twins settings t₁ t₂ s₁ s₂) (warned init : Bool) :
    (showConfig s₁ { settings with sasToken := some t₁ } warned init).seen =
      (showConfig s₂ { settings with sasToken := some t₂ } warned init).seen := by
  simp only [showConfig, shown, Finished.seen, Option.map_some, twins.file, twins.filePlace]

/-- What is seen of a command is the same, or tells of tokens. -/
theorem twins_runCommand (twins : Twins settings t₁ t₂ s₁ s₂) (c : Command) :
    (runCommand s₁ c).seen = (runCommand s₂ c).seen ∨
      (runCommand s₁ c).exitCode = (runCommand s₂ c).exitCode ∧
      (runCommand s₁ c).output = (runCommand s₂ c).output ∧
      Betray settings t₁ t₂ (runCommand s₁ c).complaints (runCommand s₂ c).complaints := by
  obtain ⟨warned, load₁, load₂⟩ := twins.settings
  cases he : errand? c with
  | none =>
    cases c with
    | config init =>
      simp only [runCommand, load₁, load₂]
      exact .inl (twins_showConfig twins warned init)
    | _ => cases he
  | some e =>
    have seen₁ := seen_errand s₁ he
    have seen₂ := seen_errand s₂ he
    rw [load₁, twins.freshId, twins.network] at seen₁
    rw [load₂] at seen₂
    obtain same | ⟨c₁, c₂, timeout, e₁, e₂, made₁, made₂, quote, lost₁, lost₂⟩ :=
      twins_result e settings (some t₁) (some t₂) s₂.freshId s₂.network
    · left
      rw [seen₁, seen₂, same]
    · rw [lost₁] at seen₁
      rw [lost₂] at seen₂
      -- tokens that differ in what URLs ignore give the same query
      by_cases ne : c₁.leaseQuery timeout = c₂.leaseQuery timeout
      · left
        rw [seen₁, seen₂, quote.eq_of_query ne]
      · right
        simp only [Finished.seen, told, Prod.mk.injEq] at seen₁ seen₂
        obtain ⟨exit₁, output₁, complaints₁⟩ := seen₁
        obtain ⟨exit₂, output₂, complaints₂⟩ := seen₂
        exact ⟨exit₁.trans exit₂.symm, output₁.trans output₂.symm, c₁, c₂, timeout, e₁, e₂, made₁,
          made₂, ne, quote, complaints₁, complaints₂⟩

/-- Two runs that are told the same but for a token are seen to do the same, but for complaints, and
those differ exactly if they quote the URL of the lease with the token. -/
theorem complaints_ne_iff (settings : Settings) (t₁ t₂ : String) (s₁ s₂ : Surroundings)
    (twins : Twins settings t₁ t₂ s₁ s₂) :
    (run s₁).exitCode = (run s₂).exitCode ∧ (run s₁).output = (run s₂).output ∧
      ((run s₁).complaints ≠ (run s₂).complaints ↔
        Betray settings t₁ t₂ (run s₁).complaints (run s₂).complaints) := by
  unfold run
  rw [twins.words]
  cases Command.read s₂.words with
  | version | help | usage => exact ⟨rfl, rfl, fun ne => absurd rfl ne, Betray.ne⟩
  | run c =>
    obtain same | ⟨exit, output, betray⟩ := twins_runCommand twins c
    · simp only [Finished.seen, Prod.mk.injEq] at same
      obtain ⟨exit, output, complaints⟩ := same
      exact ⟨exit, output, fun ne => absurd complaints ne, Betray.ne⟩
    · exact ⟨exit, output, fun _ => betray, Betray.ne⟩

def environmentOf (token : String) : List (String × String) :=
  [("FILESHARE_ACCOUNT_URL", "http://127.0.0.1"), ("FILESHARE_SAS_TOKEN", token)]

def withToken (token : String) (peer : Peer) : Surroundings where
  words := ["break", "share/f"]
  file := none
  filePlace := "config.toml"
  environment := environmentOf token
  freshId := "x"
  network := ⟨peer, [], 0, 0, fun _ => "n"⟩

theorem twins_withToken (peer : Peer) :
    Twins { Settings.default with accountUrl := "http://127.0.0.1" } "sig=a" "sig=b"
      (withToken "sig=a" peer) (withToken "sig=b" peer) := by
  have load₁ : Settings.load none (environmentOf "sig=a") =
      ({ Settings.default with accountUrl := "http://127.0.0.1", sasToken := some "sig=a" },
        false) := by decide +kernel
  have load₂ : Settings.load none (environmentOf "sig=b") =
      ({ Settings.default with accountUrl := "http://127.0.0.1", sasToken := some "sig=b" },
        false) := by decide +kernel
  exact ⟨rfl, ⟨false, load₁, load₂⟩, rfl, rfl, rfl, rfl⟩

/-- Nothing is told of the tokens if the lease is broken. -/
theorem complaints_of_broken :
    let s (token : String) := withToken token (.serving [some (Http.breaking 5)])
    (run (s "sig=a")).seen =
        (0, "\x7b\n  \"lease_time\": 5,\n  \"path\": \"share/f\"\n\x7d\n", []) ∧
      (run (s "sig=a")).output = (run (s "sig=b")).output ∧
      ¬ Betray { Settings.default with accountUrl := "http://127.0.0.1" } "sig=a" "sig=b"
        (run (s "sig=a")).complaints (run (s "sig=b")).complaints := by
  intro s
  have twins := twins_withToken (.serving [some (Http.breaking 5)])
  obtain ⟨exit, output, complaints⟩ := complaints_ne_iff _ _ _ _ _ twins
  refine ⟨by decide +kernel, output, ?_⟩
  rw [← complaints, not_ne_iff]
  decide +kernel

/-- The server cannot be reached: the complaint tells the token. -/
theorem complaints_of_unreachable :
    (run (withToken "sig=a" .unreachable)).complaints = ["transport error: request failed: " ++
      "error sending request for url (http://127.0.0.1/share/f?comp=lease&sig=a)"] ∧
    (run (withToken "sig=b" .unreachable)).complaints ≠
      (run (withToken "sig=a" .unreachable)).complaints := by
  decide +kernel

end Program

end FileLease
