import FileLease.Proofs.RedirectChains

/-!
# What a scope sends

The service grants the lease of a scope by the status of a reply. The scope releases it again only
if the headers of that reply can be read: otherwise it ends before it knows of the lease.
-/
namespace FileLease.Http
open Text

/-- What a network can become while requests are sent: those that arrived before stay noted down,
and a server still answers. -/
structure Network.Onward (n n' : Network) : Prop where
  log : n.log <+: n'.log
  serving : ∀ replies, n.peer = .serving replies → ∃ rest, n'.peer = .serving rest
  requestId : n'.requestId = n.requestId

namespace Network

variable {n n' n'' : Network} {limit redirects : Nat} {r : Request}

theorem Onward.refl (n : Network) : n.Onward n :=
  ⟨List.prefix_refl _, fun replies hp => ⟨replies, hp⟩, rfl⟩

theorem Onward.trans (first : n.Onward n') (later : n'.Onward n'') : n.Onward n'' := by
  refine ⟨first.log.trans later.log, ?_, later.requestId.trans first.requestId⟩
  intro replies hp
  obtain ⟨rest, hr⟩ := first.serving replies hp
  exact later.serving rest hr

theorem onward_deliver (limit : Nat) (quoted : Url) (r : Request) (n : Network) :
    n.Onward (n.deliver limit quoted r).2 := by
  unfold deliver
  cases hp : n.peer with
  | unreachable => exact .refl n
  | silent => exact ⟨List.prefix_refl _, fun replies hs => (by simp [hp] at hs), rfl⟩
  | serving replies =>
    have noted : n.Onward { n with log := n.log ++ [r], peer := .serving replies.tail } :=
      ⟨List.prefix_append _ _, fun _ _ => ⟨_, rfl⟩, rfl⟩
    dsimp only
    split <;> exact noted

/-- Behind the delivery of a request a chain of redirects only goes on. -/
theorem onward_follow (limit : Nat) (first : Request) (redirects : Nat) (r : Request)
    (n : Network) :
    (n.deliver limit first.url r).2.Onward (n.follow limit first redirects r).2 := by
  fun_induction follow limit first redirects r n with
  | case1 redirects r n e n₁ hd => simpa [hd] using .refl n₁
  | case2 redirects r n reply n₁ hd hl => simpa [hd] using .refl n₁
  | case3 redirects r n reply n₁ hd hl => simpa [hd] using .refl n₁
  | case4 r n reply n₁ hd place sound hl => simpa [hd] using .refl n₁
  | case5 r n reply n₁ hd text redirects hl => simpa [hd] using .refl n₁
  | case6 r n reply n₁ hd target redirects hl ih =>
    rw [hd]
    exact (onward_deliver limit first.url _ n₁).trans ih

theorem onward_exchange (limit redirects : Nat) (r : Request) (n : Network) :
    n.Onward (n.exchange limit redirects r).2 :=
  (onward_deliver limit r.url r n).trans (onward_follow limit r redirects r n)

/-- A server that answers gets the request of a delivery. -/
theorem deliver_log (limit : Nat) (quoted : Url) (r : Request) {replies : List (Option Reply)}
    (hp : n.peer = .serving replies) :
    (n.deliver limit quoted r).2.log = n.log ++ [r] := by
  unfold deliver
  simp only [hp]
  split <;> rfl

theorem exchange_log (limit redirects : Nat) (r : Request) {replies : List (Option Reply)}
    (hp : n.peer = .serving replies) :
    n.log ++ [r] <+: (n.exchange limit redirects r).2.log := by
  rw [← deliver_log limit r.url r hp]
  exact (onward_follow limit r redirects r n).log

end Network

variable {c : Client} {call : Call} {n n' : Network} {r : Request} {headers : List Header}

theorem onward_transport (c : Client) (call : Call) (n : Network) :
    n.Onward (c.transport call n).2 := by
  have sent : n.Onward (c.send call n).2 := by
    unfold Client.send
    cases hr : c.request? call (n.requestId n.sent) with
    | none => exact ⟨List.prefix_refl _, fun replies hp => ⟨replies, hp⟩, rfl⟩
    | some request =>
      have noted := Network.onward_exchange (c.limit call) maxRedirects request
        { n with sent := n.sent + 1 }
      rcases he : { n with sent := n.sent + 1 }.exchange (c.limit call) maxRedirects request with
        ⟨answer, n₁⟩
      rw [he] at noted
      simp only [he]
      cases answer <;> exact ⟨noted.log, noted.serving, noted.requestId⟩
  exact sent

/-- A call whose request can be made brings it to a server that answers. -/
theorem transport_log {replies : List (Option Reply)} (hp : n.peer = .serving replies)
    (hr : c.request? call (n.requestId n.sent) = some r) :
    n.log ++ [r] <+: (c.transport call n).2.log := by
  have arrived := @Network.exchange_log { n with sent := n.sent + 1 } (c.limit call) maxRedirects r
    _ hp
  rcases he : { n with sent := n.sent + 1 }.exchange (c.limit call) maxRedirects r with
    ⟨answer, n₁⟩
  rw [he] at arrived
  simp only [Client.transport, Client.send, hr, he]
  cases answer <;> exact arrived

theorem canSend_of_request? {requestId : String} (hr : c.request? call requestId = some r) :
    c.CanSend ∧ ∀ h ∈ Client.callHeaders call, isHeaderText h.2 = true := by
  unfold Client.request? at hr
  dsimp only at hr
  split at hr
  · rename_i texts
    have text : ∀ h ∈ c.headers call requestId, isHeaderText h.2 = true :=
      List.all_eq_true.mp texts
    refine ⟨⟨text ("user-agent", _) ?_, text ("x-ms-version", _) ?_⟩, fun h hh => text h ?_⟩
    · simp [Client.headers]
    · simp [Client.headers]
    · simp [Client.headers, hh]
  · cases hr

/-- A text that was read from a header can be sent in one. -/
theorem isHeaderText_of_headerText? {name s : String} (hs : headerText? headers name = some s) :
    isHeaderText s = true := by
  rw [isHeaderText, List.all_eq_true]
  intro c hc
  simp only [Bool.or_eq_true, Bool.and_eq_true, decide_eq_true_eq]
  exact (textual_of_headerText? hs c hc).imp_left fun visible => ⟨visible.1, by omega⟩

/-- The id of a handle after a reply that could be read is the one before it, or was read from a
header. -/
theorem isHeaderText_apply {h : Handle} {reply : LeaseReply} (id : isHeaderText h.id = true)
    (read : leaseReply headers = .ok reply) : isHeaderText (h.apply reply).id = true := by
  obtain ⟨etag, -, read⟩ := bind_eq_ok.mp read
  obtain ⟨date, -, read⟩ := bind_eq_ok.mp read
  split at read
  · cases read
  · cases read
    cases ht : headerText? headers leaseIdName with
    | none => simpa [Handle.apply, ht] using id
    | some echo =>
      have text := isHeaderText_of_headerText? ht
      cases he : echo.isEmpty with
      | true => simpa [Handle.apply, ht, Option.filter, he] using id
      | false => simpa [Handle.apply, ht, Option.filter, he] using text

end FileLease.Http

namespace FileLease.Handle
open Http Text

variable {α ω : Type}

/-- Work that is not cancelled is followed by the release, which is the last that a scope does. -/
theorem withLease_world {t : Transport ω} {later : Bool} {timeout : Option UInt32}
    {body : String → ω → Exit α × ω} {h : Handle} {w w₁ w₂ : ω} {reply : LeaseReply}
    {exit : Exit α} (ha : t (.acquire h.path timeout .infinite h.id) w = (.ok reply, w₁))
    (hb : body (h.apply reply).id w₁ = (exit, w₂)) (hx : exit ≠ .cancelled) :
    (h.withLease t later timeout body w).world =
      (t (.release h.path (h.apply reply).id timeout) w₂).2 := by
  rcases hr : t (.release h.path (h.apply reply).id timeout) w₂ with ⟨answer, w₃⟩
  cases answer with
  | ok last => rw [withLease_released ha hb hx hr]
  | error e => rw [withLease_unreleased ha hb hx hr]

/-- Granted the lease by the status of a reply, a scope whose work ends sends a release of the same
file exactly if the headers of that reply can be read. The work may send what it likes. -/
theorem withLease_sends_release_iff (c : Client) (later : Bool) (timeout : Option UInt32)
    (body : String → Network → Exit α × Network) (h : Handle) (n : Network)
    (named : ∀ k, isHeaderText (n.requestId k) = true)
    (onward : ∀ id (m : Network), m.Onward (body id m).2)
    (ends : ∀ id m, (body id m).1 ≠ .cancelled)
    {headers : List Header} {n₁ : Network}
    (granted : c.send (.acquire h.path timeout .infinite h.id) n = (.ok headers, n₁)) :
    (∃ sent, (h.withLease c.transport later timeout body n).world.log = n₁.log ++ sent ∧
      ∃ r ∈ sent, ∃ id, c.Asks (.release h.path id timeout) r) ↔
      ∃ reply, leaseReply headers = .ok reply := by
  cases read : leaseReply headers with
  | error e =>
    have refused : c.transport (.acquire h.path timeout .infinite h.id) n = (.error e, n₁) := by
      simp only [Client.transport, granted, Except.bind, Client.answerOf, read]
    rw [withLease_refused refused]
    constructor
    · rintro ⟨sent, log, r, hr, -⟩
      obtain rfl : sent = [] := by simpa using log
      cases hr
    · rintro ⟨reply, hr⟩
      cases hr
  | ok reply =>
    have acquired : c.transport (.acquire h.path timeout .infinite h.id) n = (.ok reply, n₁) := by
      simp only [Client.transport, granted, Except.bind, Client.answerOf, read]
    refine ⟨fun _ => ⟨reply, rfl⟩, fun _ => ?_⟩
    obtain ⟨first, hops, final, made, -, served, -⟩ := send_ok granted
    obtain ⟨can, texts⟩ := canSend_of_request? made
    have id : isHeaderText (h.apply reply).id = true :=
      isHeaderText_apply (texts ("x-ms-proposed-lease-id", h.id) (by
        simp [Client.callHeaders, proposedIdName])) read
    rcases hb : body (h.apply reply).id n₁ with ⟨exit, n₂⟩
    have worked : n₁.Onward n₂ := by simpa [hb] using onward (h.apply reply).id n₁
    have ended : exit ≠ .cancelled := by simpa [hb] using ends (h.apply reply).id n₁
    rw [withLease_world acquired hb ended]
    -- the server still answers, and the release can be made into a request
    obtain ⟨rest, -, answering⟩ := served.replies
    obtain ⟨rest', serving⟩ := worked.serving rest answering
    have known : n₂.requestId = n.requestId := worked.requestId.trans served.requestId
    have sendable : SendableIds (.release h.path (h.apply reply).id timeout) := by
      constructor
      · rintro _ ⟨⟩
        exact id
      · rintro _ ⟨⟩
    obtain ⟨request, asks, -⟩ := request?_carries can sendable (known ▸ named n₂.sent)
    obtain ⟨during, work⟩ := worked.log
    obtain ⟨after, log⟩ := transport_log serving asks
    refine ⟨during ++ [request] ++ after, ?_, request, by simp, _, _, asks⟩
    rw [← log, ← work]
    simp only [List.append_assoc]

/-- The work breaks the lease and panics: the release is sent all the same, and refused. -/
theorem withLease_sends_release_after_break :
    let c := Client.loopback
    let h : Handle := ⟨"x", none, ⟨"share", "f"⟩⟩
    let reply := granting ⟨some "y", "e", .epoch⟩
    let n : Network := ⟨.serving [some reply, some (breaking 0), none], [], 0, 0, fun _ => "n"⟩
    let body (id : String) (m : Network) : Exit Unit × Network :=
      (.panic id, (c.transport (.break h.path none) m).2)
    let sent := c.send (.acquire h.path none .infinite h.id) n
    let scope := h.withLease c.transport true none body n
    sent.1 = .ok reply.headers ∧ scope.world.log.length = 3 ∧
      ∃ later, scope.world.log = sent.2.log ++ later ∧
        ∃ r ∈ later, ∃ id, c.Asks (.release h.path id none) r := by
  intro c h reply n body sent scope
  have granted : sent = (.ok reply.headers, sent.2) := eq_ok_of_toOption (by decide +kernel)
  have read : (leaseReply reply.headers).toOption.isSome = true := by decide +kernel
  have named (k : Nat) : isHeaderText (n.requestId k) = true := by
    show isHeaderText "n" = true
    decide
  have onward (id : String) (m : Network) : m.Onward (body id m).2 := onward_transport c _ m
  refine ⟨by rw [granted], by decide +kernel, ?_⟩
  refine (withLease_sends_release_iff c true none body h n named onward nofun granted).mpr ?_
  cases hr : leaseReply reply.headers with
  | error e => simp [hr, Except.toOption] at read
  | ok answer => exact ⟨answer, rfl⟩

/-- The reply that grants the lease has no tag: the work is left undone, and nothing is sent but the
request for the lease. -/
theorem withLease_leaks :
    let settings := { Settings.default with accountUrl := "http://127.0.0.1" }
    let h : Handle := ⟨"x", none, ⟨"share", "f"⟩⟩
    let headers : List Header := [.ofText "Last-Modified" "Tue, 15 Oct 2019 22:10:21 GMT"]
    let n : Network := ⟨.serving [some ⟨201, headers, [], true⟩], [], 0, 0, fun _ => "n"⟩
    ∃ c, Client.ofSettings settings = .ok c ∧
      (c.send (.acquire h.path none .infinite h.id) n).1 = .ok headers ∧
      (h.withLease c.transport true none (fun _ m => (.value (), m)) n).world.log.map
        (·.values "x-ms-lease-action") = [[bytesOf "acquire"]] := by
  intro settings h headers n
  have granted : (Client.loopback.send (.acquire h.path none .infinite h.id) n).1.toOption =
      some headers := by decide +kernel
  refine ⟨.loopback, ofSettings_loopback, ?_, by decide +kernel⟩
  rw [eq_ok_of_toOption granted]

end FileLease.Handle
