import FileLease.Proofs.ScopeRequests

/-!
# Requests that are not sent

A call whose settings or ids hold a control character is not made into a request: it fails before
anything is sent, and as nothing else does. What fails later is the network's doing or the reply's.
-/
namespace FileLease

def Call.ids (c : Call) : List String :=
  c.leaseId?.toList ++ c.proposedId?.toList

namespace Http
open Text

def IsControl (c : Char) : Prop :=
  c.toNat < 0x20 ∨ c.toNat = 0x7F

instance (c : Char) : Decidable (IsControl c) :=
  inferInstanceAs (Decidable (_ ∨ _))

theorem isHeaderText_eq_false_iff {s : String} :
    isHeaderText s = false ↔ ∃ c ∈ s.toList, IsControl c ∧ c ≠ '\t' := by
  rw [isHeaderText, List.all_eq_false]
  refine exists_congr fun c => and_congr_right fun _ => ?_
  simp only [IsControl, Bool.or_eq_true, Bool.and_eq_true, decide_eq_true_eq, not_or, ne_eq]
  refine and_congr_left fun _ => ?_
  omega

variable {c : Client} {call : Call} {requestId : String} {r : Request} {n n' : Network}
  {e : TransportError}

theorem text_of_callHeaders (texts : ∀ h ∈ Client.callHeaders call, isHeaderText h.2 = true) :
    ∀ id ∈ call.ids, isHeaderText id = true := by
  cases call with
  | acquire p timeout duration id =>
    simpa [Client.callHeaders, Call.ids, Call.leaseId?, Call.proposedId?,
      isHeaderText_duration] using texts
  | release p id timeout =>
    simpa [Client.callHeaders, Call.ids, Call.leaseId?, Call.proposedId?] using texts
  | change p id id' timeout =>
    simpa [Client.callHeaders, Call.ids, Call.leaseId?, Call.proposedId?] using texts
  | «break» p timeout => simp [Call.ids, Call.leaseId?, Call.proposedId?]

theorem sendableIds_of_ids (texts : ∀ id ∈ call.ids, isHeaderText id = true) :
    SendableIds call := by
  constructor
  · exact fun id own => texts id (by simp [Call.ids, own])
  · exact fun id own => texts id (by simp [Call.ids, own])

/-- The version and the ids decide whether a call is made into a request, if what the client itself
puts into the headers can be sent. -/
theorem request?_eq_none_iff (agent : isHeaderText c.userAgent = true)
    (named : isHeaderText requestId = true) :
    c.request? call requestId = none ↔
      ∃ text ∈ c.apiVersion :: call.ids, isHeaderText text = false := by
  constructor
  · intro none
    by_contra texts
    have all : ∀ text ∈ c.apiVersion :: call.ids, isHeaderText text = true := by simpa using texts
    obtain ⟨version, ids⟩ := List.forall_mem_cons.mp all
    obtain ⟨request, made, -⟩ := request?_carries ⟨agent, version⟩ (sendableIds_of_ids ids) named
    rw [none] at made
    cases made
  · rintro ⟨text, mem, bad⟩
    refine Option.eq_none_iff_forall_not_mem.mpr fun request made => ?_
    obtain ⟨can, texts⟩ := canSend_of_request? made
    have good : isHeaderText text = true := by
      rcases List.mem_cons.mp mem with rfl | mem
      · exact can.apiVersion
      · exact text_of_callHeaders texts text mem
    rw [good] at bad
    cases bad

/-- Failures that come of the network or of a reply. -/
def Met : TransportError → Prop
  | .request .unbuildable => False
  | .invalidRequest _ => False
  | _ => True

/-- Whoever makes the call can tell them from those of a request that could not be made. -/
theorem ofTransport_of_met (met : Met e) :
    Failure.ofTransport e ≠ .transport (.request .unbuildable) ∧
      ∀ text, Failure.ofTransport e ≠ .transport (.invalidRequest text) := by
  cases e with
  | request cause =>
    cases cause with
    | unbuildable => exact met.elim
    | unanswered url => exact ⟨nofun, nofun⟩
    | redirected url => exact ⟨nofun, nofun⟩
    | misdirected url => exact ⟨nofun, nofun⟩
  | invalidRequest text => exact met.elim
  | timeout => exact ⟨nofun, nofun⟩
  | refused status code message => exact ⟨nofun, nofun⟩
  | missingHeader name => exact ⟨nofun, nofun⟩
  | invalidHeader name value => exact ⟨nofun, nofun⟩

theorem met_deliver {limit : Nat} {quoted : Url}
    (hd : n.deliver limit quoted r = (.error e, n')) : Met e := by
  unfold Network.deliver at hd
  dsimp only at hd
  split at hd
  · cases hd
    trivial
  · cases hd
    trivial
  · split at hd
    · cases hd
    · cases hd
      trivial

theorem met_follow {limit redirects : Nat} {first : Request}
    (hf : n.follow limit first redirects r = (.error e, n')) : Met e := by
  fun_induction Network.follow limit first redirects r n with
  | case1 redirects r n e' n₁ hd =>
    cases hf
    exact met_deliver hd
  | case2 redirects r n reply n₁ hd hl => cases hf
  | case3 redirects r n reply n₁ hd hl =>
    cases hf
    trivial
  | case4 r n reply n₁ hd place sound hl =>
    cases hf
    trivial
  | case5 r n reply n₁ hd text redirects hl =>
    cases hf
    trivial
  | case6 r n reply n₁ hd target redirects hl ih => exact ih hf

theorem met_leaseReply {headers : List Header} (hr : leaseReply headers = .error e) : Met e := by
  have required {name : String} {e : TransportError}
      (h : requiredText headers name = .error e) : Met e := by
    unfold requiredText at h
    split at h
    · cases h
    · cases h
      trivial
  obtain missing | ⟨etag, -, hr⟩ := bind_eq_error.mp hr
  · exact required missing
  · obtain missing | ⟨date, -, hr⟩ := bind_eq_error.mp hr
    · exact required missing
    · split at hr
      · cases hr
        trivial
      · cases hr

theorem met_leaseTime {headers : List Header} (ht : leaseTime headers = .error e) : Met e := by
  unfold leaseTime at ht
  split at ht
  · cases ht
  · split at ht
    · cases ht
    · cases ht
      trivial

theorem met_answerOf {headers : List Header} (ha : Client.answerOf headers call = .error e) :
    Met e := by
  cases call with
  | «break» p timeout => exact met_leaseTime ha
  | acquire | release | change => exact met_leaseReply ha

/-- A call that was made into a request fails by the network's doing or the reply's. -/
theorem met_transport (made : c.request? call (n.requestId n.sent) = some r)
    (ht : c.transport call n = (.error e, n')) : Met e := by
  rcases he : { n with sent := n.sent + 1 }.exchange (c.limit call) maxRedirects r with ⟨answer, n₁⟩
  simp only [Client.transport, Client.send, made, he, Prod.mk.injEq] at ht
  cases answer with
  | error e' =>
    cases ht.1
    exact met_follow he
  | ok reply =>
    cases success : reply.isSuccess with
    | false =>
      simp only [success] at ht
      cases ht.1
      trivial
    | true =>
      simp only [success, if_true] at ht
      exact met_answerOf ht.1

theorem transport_unbuilt (none : c.request? call (n.requestId n.sent) = none) :
    c.transport call n = (.error (.request .unbuildable), { n with sent := n.sent + 1 }) := by
  simp only [Client.transport, Client.send, none, Except.bind]

/-- A client keeps the version that it is to name, and has a name of its own that can be sent. -/
theorem version_of_ofSettings {s : Settings} (made : Client.ofSettings s = .ok c) :
    c.apiVersion = s.apiVersion ∧ isHeaderText c.userAgent = true := by
  rw [ofSettings_eq] at made
  obtain ⟨url, -, made⟩ := bind_eq_ok.mp made
  split at made
  · cases made
    exact ⟨rfl, ‹_›⟩
  · cases made

end Http

namespace Handle
open Http Text

variable {s : Settings} {c : Client}

/-- An operation whose version or ids hold a control other than a tab fails like one that cannot be
made into a request, with nothing sent and the handle as it was, and no other operation fails like
this. None fails as an invalid request. -/
theorem perform_unbuildable_iff (made : Client.ofSettings s = .ok c) (op : Operation)
    (timeout : Option UInt32) (h : Handle) (n : Network)
    (named : isHeaderText (n.requestId n.sent) = true) :
    ((∃ text ∈ s.apiVersion :: (op.call h timeout).ids,
        ∃ ch ∈ text.toList, IsControl ch ∧ ch ≠ '\t') →
      h.perform c.transport op timeout n =
        (.error (.transport (.request .unbuildable)), h, { n with sent := n.sent + 1 })) ∧
    ((h.perform c.transport op timeout n).1 = .error (.transport (.request .unbuildable)) →
      ∃ text ∈ s.apiVersion :: (op.call h timeout).ids,
        ∃ ch ∈ text.toList, IsControl ch ∧ ch ≠ '\t') ∧
    ∀ text, (h.perform c.transport op timeout n).1 ≠
      .error (.transport (.invalidRequest text)) := by
  obtain ⟨version, agent⟩ := version_of_ofSettings made
  have unbuilt := @request?_eq_none_iff c (op.call h timeout) _ agent named
  simp only [version, isHeaderText_eq_false_iff] at unbuilt
  rw [← unbuilt]
  cases hr : c.request? (op.call h timeout) (n.requestId n.sent) with
  | none =>
    have failed := perform_error op (transport_unbuilt hr)
    refine ⟨fun _ => failed, fun _ => rfl, fun text invalid => ?_⟩
    rw [failed] at invalid
    cases invalid
  | some request =>
    rcases ht : c.transport (op.call h timeout) n with ⟨answer, n'⟩
    cases answer with
    | ok answer =>
      rw [perform_ok op ht]
      exact ⟨nofun, nofun, nofun⟩
    | error e =>
      obtain ⟨unbuildable, invalid⟩ := ofTransport_of_met (met_transport hr ht)
      rw [perform_error op ht]
      exact ⟨nofun, fun same => absurd (Except.error.inj same) unbuildable,
        fun text same => invalid text (Except.error.inj same)⟩

/-- The id that is proposed holds a control at its end, the one that is given up a tab: nothing
reaches a server that would grant the change. -/
theorem perform_unbuildable_of_proposal :
    let c := Client.loopback
    let h : Handle := ⟨"a\tb", none, ⟨"share", "f"⟩⟩
    let n : Network := ⟨.serving [some (granting ⟨none, "e", .epoch⟩)], [], 0, 0, fun _ => "n"⟩
    Client.ofSettings { Settings.default with accountUrl := "http://127.0.0.1" } = .ok c ∧
      isHeaderText (n.requestId n.sent) = true ∧
      h.perform c.transport (.change "y\x7f") none n =
        (.error (.transport (.request .unbuildable)), h, { n with sent := 1 }) := by
  intro c h n
  have named : isHeaderText (n.requestId n.sent) = true := by
    show isHeaderText "n" = true
    decide
  refine ⟨ofSettings_loopback, named, ?_⟩
  refine (perform_unbuildable_iff ofSettings_loopback (.change "y\x7f") none h n named).1 ?_
  exact ⟨"y\x7f", by simp [Call.ids, Operation.call, Call.leaseId?, Call.proposedId?], '\x7f',
    by decide, by decide, by decide⟩

def brokenVersion : Settings :=
  { Settings.default with accountUrl := "http://127.0.0.1", apiVersion := "2019-07-07\n" }

theorem ofSettings_brokenVersion : Client.ofSettings brokenVersion =
    .ok { Client.loopback with apiVersion := "2019-07-07\n" } := by
  rfl

/-- The version cannot be sent: the acquire fails like a request that got lost, not as an invalid
one. -/
theorem perform_not_invalid_of_version :
    let h : Handle := ⟨"x", none, ⟨"share", "f"⟩⟩
    let n : Network := ⟨.serving [some (granting ⟨none, "e", .epoch⟩)], [], 0, 0, fun _ => "n"⟩
    ∃ c after, Client.ofSettings brokenVersion = .ok c ∧
      h.perform c.transport .acquire none n =
        (.error (.transport (.request .unbuildable)), after) ∧
      ∀ text, (h.perform c.transport .acquire none n).1 ≠
        .error (.transport (.invalidRequest text)) := by
  intro h n
  have none : ({ Client.loopback with apiVersion := "2019-07-07\n" } : Client).request?
      (.acquire h.path none .infinite h.id) "n" = none := by decide +kernel
  have failed := perform_error (h := h) .acquire (transport_unbuilt (n := n) none)
  refine ⟨_, _, ofSettings_brokenVersion, failed, fun text invalid => ?_⟩
  rw [failed] at invalid
  cases invalid

end Handle
end FileLease
