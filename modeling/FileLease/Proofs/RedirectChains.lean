import FileLease.Proofs.WireCalls

/-!
# Chains of redirects

A request is followed by others as long as replies redirect it. All of them ask for the same in
their headers, but the first status of 303 turns them into requests that only read.
-/
namespace FileLease.Http
open Text

structure Hop where
  request : Request
  reply : Reply

/-- Hops lead on from a request to another if each reply redirects its request to the next, all of
them being made from the `first` one. -/
inductive LeadsOn (first : Request) : Request → List Hop → Request → Prop
  | here (r : Request) : LeadsOn first r [] r
  | on {r last : Request} {reply : Reply} {target : Url} {hops : List Hop}
      (place : reply.location? r.url = some (.web target))
      (rest : LeadsOn first (first.redirected r reply.status target) hops last) :
      LeadsOn first r (⟨r, reply⟩ :: hops) last

def Leads (first : Request) (hops : List Hop) (last : Request) : Prop :=
  LeadsOn first first hops last

/-- Between two networks a server gets the requests of hops and gives their replies. -/
structure Network.Serves (n : Network) (hops : List Hop) (n' : Network) : Prop where
  replies : ∃ rest, n.peer = .serving (hops.map (some ·.reply) ++ rest) ∧ n'.peer = .serving rest
  log : n'.log = n.log ++ hops.map (·.request)
  requestId : n'.requestId = n.requestId

variable {first r last : Request} {hops : List Hop}

theorem filter_withoutHeader {taken name : String} (other : sameName taken name = false)
    (headers : List Header) :
    (withoutHeader taken headers).filter (·.named name) = headers.filter (·.named name) := by
  rw [withoutHeader, List.filter_filter]
  refine List.filter_congr fun h _ => ?_
  cases hn : h.named name with
  | false => rfl
  | true =>
    -- the header has the one name, so it does not have the other
    have away : h.named taken = false := by
      rw [← Bool.not_eq_true]
      intro ht
      simp only [Header.named, sameName, beq_iff_eq, beq_eq_false_iff_ne] at hn ht other
      exact other (ht.symm.trans hn)
    rw [away]
    rfl

theorem filter_referer {name : String} (other : sameName "referer" name = false)
    {source target : Url} {header : Header} (hr : referer? source target = some header) :
    [header].filter (·.named name) = [] := by
  unfold referer? at hr
  split at hr
  · cases hr
  · cases hr
    simp [other]

/-- Headers of other names than the ones that a redirect sets or takes away are kept. -/
theorem values_redirected {name : String} (first r : Request) (status : Nat) (target : Url)
    (referer : sameName "referer" name = false)
    (authorization : sameName "authorization" name = false)
    (contentLength : sameName "content-length" name = false) :
    (first.redirected r status target).values name = first.values name := by
  have payload (method : Method) :
      (first.headersFor method).filter (·.named name) = first.headers.filter (·.named name) := by
    cases method with
    | put => rfl
    | get => exact filter_withoutHeader contentLength first.headers
  have proof (headers : List Header) :
      (if r.url.host = target.host ∧ portOf r.url = portOf target then headers
        else withoutHeader "authorization" headers).filter (·.named name) =
      headers.filter (·.named name) := by
    split
    · rfl
    · exact filter_withoutHeader authorization headers
  simp only [Request.values, Request.redirected]
  cases hr : referer? r.url target with
  | none => simp only [proof, payload]
  | some header =>
    simp only [List.filter_append, filter_withoutHeader referer, proof, payload,
      filter_referer referer hr, List.append_nil]

theorem method_redirected (first r : Request) (status : Nat) (target : Url) :
    (first.redirected r status target).method = .put ↔ r.method = .put ∧ status ≠ 303 := by
  by_cases hs : status = 303 <;> simp [Request.redirected, hs]

/-- The action that is asked for stays the same. -/
theorem LeadsOn.action (leads : LeadsOn first r hops last)
    (same : r.values "x-ms-lease-action" = first.values "x-ms-lease-action") :
    last.values "x-ms-lease-action" = first.values "x-ms-lease-action" := by
  induction leads with
  | here r => exact same
  | on place rest ih =>
    exact ih (values_redirected _ _ _ _ (by decide) (by decide) (by decide))

theorem LeadsOn.method (leads : LeadsOn first r hops last) :
    last.method = .put ↔ r.method = .put ∧ ∀ hop ∈ hops, hop.reply.status ≠ 303 := by
  induction leads with
  | here r => simp
  | on place rest ih => rw [ih, method_redirected, List.forall_mem_cons, and_assoc]

namespace Network

variable {n n' n'' : Network} {limit : Nat} {reply : Reply}

theorem Serves.cons {hop : Hop} (first : n.Serves [hop] n') (later : n'.Serves hops n'') :
    n.Serves (hop :: hops) n'' := by
  obtain ⟨rest, before, between⟩ := first.replies
  obtain ⟨rest', between', after⟩ := later.replies
  refine ⟨⟨rest', ?_, after⟩, ?_, later.requestId.trans first.requestId⟩
  · have same : rest = hops.map (some ·.reply) ++ rest' := by
      rw [between] at between'
      exact Peer.serving.inj between'
    rw [before, same]
    rfl
  · rw [later.log, first.log, List.append_assoc]
    rfl

theorem deliver_ok {quoted : Url} (hd : n.deliver limit quoted r = (.ok reply, n')) :
    n.Serves [⟨r, reply⟩] n' := by
  unfold deliver at hd
  cases hp : n.peer with
  | unreachable => simp [hp] at hd
  | silent => simp [hp] at hd
  | serving replies =>
    cases replies with
    | nil => simp [hp] at hd
    | cons first rest =>
      cases first with
      | none => simp [hp] at hd
      | some first =>
        simp only [hp, List.head?_cons, Option.join_some, List.tail_cons, Prod.mk.injEq,
          Except.ok.injEq] at hd
        obtain ⟨rfl, rfl⟩ := hd
        exact ⟨⟨rest, hp, rfl⟩, rfl, rfl⟩

/-- A chain that is answered goes on to a request that gets the answer. -/
theorem follow_ok {redirects : Nat} (hf : n.follow limit first redirects r = (.ok reply, n')) :
    ∃ hops last, LeadsOn first r hops last ∧ n.Serves (hops ++ [⟨last, reply⟩]) n' := by
  fun_induction Network.follow limit first redirects r n with
  | case1 redirects r n e n₁ hd => cases hf
  | case2 redirects r n answer n₁ hd hl =>
    cases hf
    exact ⟨[], r, .here r, deliver_ok hd⟩
  | case3 redirects r n answer n₁ hd hl => cases hf
  | case4 r n answer n₁ hd place sound hl => cases hf
  | case5 r n answer n₁ hd text redirects hl => cases hf
  | case6 r n answer n₁ hd target redirects hl ih =>
    obtain ⟨hops, last, leads, served⟩ := ih hf
    exact ⟨_ :: hops, last, .on hl leads, (deliver_ok hd).cons served⟩

end Network

variable {c : Client} {call : Call} {n n' : Network}

/-- The requests that a client makes of a call, whatever name it gives them. -/
def Client.Asks (c : Client) (call : Call) (r : Request) : Prop :=
  ∃ requestId, c.request? call requestId = some r

theorem Client.Asks.carries (asks : c.Asks call r) : r.Carries call := by
  obtain ⟨requestId, hr⟩ := asks
  unfold request? at hr
  dsimp only at hr
  split at hr
  · cases hr
    exact carries_headers c call requestId _
  · cases hr

/-- A call is granted by a reply of success to the last request of a chain, which begins with the
request of the call. -/
theorem send_ok {headers : List Header} (hs : c.send call n = (.ok headers, n')) :
    ∃ request hops final, c.request? call (n.requestId n.sent) = some request ∧
      Leads request hops final.request ∧ n.Serves (hops ++ [final]) n' ∧
      final.reply.isSuccess = true ∧ final.reply.headers = headers := by
  unfold Client.send at hs
  cases hr : c.request? call (n.requestId n.sent) with
  | none => simp [hr] at hs
  | some request =>
    rcases he : { n with sent := n.sent + 1 }.exchange (c.limit call) maxRedirects request with
      ⟨answer, n₁⟩
    simp only [hr, he] at hs
    cases answer with
    | error e => cases hs
    | ok reply =>
      cases success : reply.isSuccess with
      | false => simp [success] at hs
      | true =>
        simp only [success, if_true, Prod.mk.injEq, Except.ok.injEq] at hs
        obtain ⟨rfl, rfl⟩ := hs
        obtain ⟨hops, last, leads, served⟩ := Network.follow_ok he
        exact ⟨request, hops, ⟨last, reply⟩, rfl, leads,
          ⟨served.replies, served.log, served.requestId⟩, success, rfl⟩

theorem transport_ok {answer : call.Answer} (ht : c.transport call n = (.ok answer, n')) :
    ∃ headers, c.send call n = (.ok headers, n') ∧
      Client.answerOf headers call = .ok answer := by
  rcases hs : c.send call n with ⟨sent, n₁⟩
  simp only [Client.transport, hs, Prod.mk.injEq] at ht
  obtain ⟨read, rfl⟩ := ht
  cases sent with
  | error e => cases read
  | ok headers => exact ⟨headers, rfl, read⟩

theorem ofSettings_eq (s : Settings) : Client.ofSettings s =
    (s.checked.mapError Failure.config).bind fun url =>
      if isHeaderText (Release.userAgent s.userAgentSuffix) then
        .ok ⟨url, (s.sasToken.map fun t => t.toList.dropWhile (· = '?')).filter (! ·.isEmpty),
          s.apiVersion, s.requestTimeout, Release.userAgent s.userAgentSuffix⟩
      else .error (.transport (.request .unbuildable)) := by
  unfold Client.ofSettings
  cases s.checked with
  | error e => rfl
  | ok url => by_cases text : isHeaderText (Release.userAgent s.userAgentSuffix) = true <;>
      simp [Except.mapError, Except.bind, text]

def Client.loopback : Client :=
  ⟨⟨.http, [], none, .ipv4 0x7F000001, none, [[]], none, none⟩, none, "2019-07-07", 30,
    "fileshare/0.1.0"⟩

theorem ofSettings_loopback :
    Client.ofSettings { Settings.default with accountUrl := "http://127.0.0.1" } =
      .ok .loopback := by
  rfl

end FileLease.Http

namespace FileLease.Handle
open Http Text

theorem granted_call {t : Transport ω} {op : Operation} {timeout : Option UInt32} {h h' : Handle}
    {w w' : ω} {told : Option UInt32} (hp : h.perform t op timeout w = (.ok told, h', w')) :
    ∃ answer, t (op.call h timeout) w = (.ok answer, w') := by
  rcases ht : t (op.call h timeout) w with ⟨answer, w₁⟩
  cases answer with
  | error e =>
    rw [perform_error op ht] at hp
    cases hp
  | ok answer =>
    rw [perform_ok op ht] at hp
    cases hp
    exact ⟨answer, rfl⟩

/-- An operation that succeeds was granted by a reply of success to a request which the one of its
call was redirected to, and which names the same action. It has the method that leases are asked for
by exactly if no redirect had the status 303. -/
theorem granted_by_put_iff (c : Client) (op : Operation) (timeout : Option UInt32) (h : Handle)
    (n : Network) {told : Option UInt32} {h' : Handle} {n' : Network}
    (granted : h.perform c.transport op timeout n = (.ok told, h', n')) :
    ∃ (first : Request) (hops : List Hop) (final : Hop), c.Asks (op.call h timeout) first ∧
      Leads first hops final.request ∧ n.Serves (hops ++ [final]) n' ∧
      final.reply.isSuccess = true ∧
      final.request.values "x-ms-lease-action" = [bytesOf (op.call h timeout).action] ∧
      (final.request.method = .put ↔ ∀ hop ∈ hops, hop.reply.status ≠ 303) := by
  obtain ⟨answer, ht⟩ := granted_call granted
  obtain ⟨headers, hs, -⟩ := transport_ok ht
  obtain ⟨request, hops, final, hr, leads, served, success, -⟩ := send_ok hs
  have asks : c.Asks (op.call h timeout) request := ⟨_, hr⟩
  have carries := asks.carries
  refine ⟨request, hops, final, asks, leads, served, success, ?_, ?_⟩
  · rw [leads.action rfl, carries.action]
  · rw [leads.method]
    exact and_iff_right carries.method

/-- The client is sent elsewhere with a status that keeps the method, and then the release is
granted. -/
theorem granted_by_put_after_redirect :
    let c := Client.loopback
    let h : Handle := ⟨"x", none, ⟨"share", "f"⟩⟩
    let replies : List (Option Reply) := [some ⟨307, [.ofText "Location" "/g"], [], true⟩,
      some (granting ⟨none, "e", .epoch⟩)]
    let n : Network := ⟨.serving replies, [], 0, 0, fun _ => "n"⟩
    let after := (h.perform c.transport .release none n).2
    h.perform c.transport .release none n = (.ok none, after) ∧
      after.2.log.map (·.url.path) = [[['s', 'h', 'a', 'r', 'e'], ['f']], [['g']]] ∧
      ∃ (hops : List Hop) (final : Hop), n.Serves (hops ++ [final]) after.2 ∧
        final.request.method = .put := by
  intro c h replies n after
  have told : (h.perform c.transport .release none n).1.toOption = some none := by decide +kernel
  have granted := eq_ok_of_toOption told
  refine ⟨granted, by decide +kernel, ?_⟩
  obtain ⟨-, hops, final, -, -, served, -, -, put⟩ := granted_by_put_iff c .release none h n granted
  refine ⟨hops, final, served, put.mpr fun hop hh => ?_⟩
  obtain ⟨rest, sent, -⟩ := served.replies
  have given : some hop.reply ∈ replies := by
    rw [Peer.serving.inj sent]
    exact List.mem_append_left rest (List.mem_map_of_mem (List.mem_append_left [final] hh))
  have statuses : ∀ reply ∈ replies, reply.map (·.status) ≠ some 303 := by decide +kernel
  exact fun status => statuses _ given (congrArg some status)

/-- A redirect with the status 303: the lease counts as acquired, though the request that succeeded
only reads, and another place than the file. -/
theorem granted_by_get :
    let settings := { Settings.default with accountUrl := "http://127.0.0.1" }
    let h : Handle := ⟨"x", none, ⟨"share", "f"⟩⟩
    let n : Network := ⟨.serving [some ⟨303, [.ofText "Location" "/g"], [], true⟩,
      some (granting ⟨none, "e", .epoch⟩)], [], 0, 0, fun _ => "n"⟩
    ∃ c after, Client.ofSettings settings = .ok c ∧
      h.perform c.transport .acquire none n = (.ok none, after) ∧
      after.2.log.map (·.method) = [.put, .get] := by
  intro settings h n
  have told : (h.perform Client.loopback.transport .acquire none n).1.toOption = some none := by
    decide +kernel
  exact ⟨.loopback, _, ofSettings_loopback, eq_ok_of_toOption told, by decide +kernel⟩

end FileLease.Handle
