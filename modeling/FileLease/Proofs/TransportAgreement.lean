import FileLease.Proofs.GuidTexts
import FileLease.Proofs.RevisionOrder
import FileLease.Proofs.WireCalls

/-!
# The two ways to make calls agree

A server that answers each request with what the service in memory answers to the call makes a
handle do over HTTP what it does over the service in memory, and is asked for the same.
-/
namespace FileLease
open Text

namespace Service

def Deed.Ordinary : Deed → Prop
  | .command .failNext => False
  | .command (.clock now) => 0 ≤ now.seconds
  | .command (.create _) | .command (.delete _) | .command (.lookAt _) | .call _ => True

/-- Calls do not time out, and all dates are whole seconds from 1970 on. -/
structure Ordinary (s : Service) : Prop where
  awake : s.store.timeoutPending = false
  clock : 0 ≤ s.clock.seconds
  dates : ∀ p f, s.store.files p = some f → f.lastModified.nanos = 0 ∧ 0 ≤ f.lastModified.seconds

theorem ordinary_start {now : Instant} (h : 0 ≤ now.seconds) : (start now).Ordinary :=
  ⟨rfl, h, fun p f hf => by cases hf⟩

variable {s s' : Service} {now : Instant} {f f' : FileState}

theorem serve_dates {c : Call} {answer : c.Answer} (h : serve now f c = .ok (answer, f'))
    (old : f.lastModified.nanos = 0 ∧ 0 ≤ f.lastModified.seconds) :
    f'.lastModified.nanos = 0 ∧ 0 ≤ f'.lastModified.seconds := by
  obtain ⟨changed, -⟩ := serve_revision h
  split at changed
  · obtain ⟨lease, rfl⟩ := changed
    rw [FileState.touched_lastModified old.1]
    refine ⟨rfl, ?_⟩
    show 0 ≤ max now.seconds (f.lastModified.seconds + 1)
    omega
  · rw [changed]
    exact old

theorem Ordinary.dates_step (h : s.Ordinary) (d : Deed) (p : SharePath) (f : FileState)
    (hf : (s.step d).store.files p = some f) :
    f.lastModified.nanos = 0 ∧ 0 ≤ f.lastModified.seconds := by
  have hb := bearing_step s d p
  rw [hf] at hb
  generalize he : some f = after at hb
  cases hb with
  | same => exact h.dates p f he.symm
  | created absent =>
    cases he
    exact ⟨rfl, h.clock⟩
  | deleted => cases he
  | served here found granted =>
    cases he
    exact serve_dates granted (h.dates p _ found)

theorem transport_pending (c : Call) (awake : s.store.timeoutPending = false) :
    (transport c s).2.store.timeoutPending = false := by
  rcases ht : transport c s with ⟨_ | answer, s'⟩
  · obtain ⟨pending, -⟩ | ⟨-, rfl, -⟩ := transport_eq_error.mp ht
    · rw [awake] at pending
      cases pending
    · exact awake
  · obtain ⟨-, f, f', -, -, rfl⟩ := transport_eq_ok.mp ht
    exact awake

theorem Ordinary.step (h : s.Ordinary) {d : Deed} (hd : d.Ordinary) : (s.step d).Ordinary := by
  refine ⟨?_, ?_, h.dates_step d⟩
  · cases d with
    | call c => exact transport_pending c h.awake
    | command c =>
      cases c with
      | clock now => exact h.awake
      | create p =>
        simp only [Service.step, obey, Store.create]
        split <;> exact h.awake
      | delete p => exact h.awake
      | lookAt p => exact h.awake
      | failNext => exact hd.elim
  · cases d with
    | call c => exact h.clock
    | command c =>
      cases c with
      | clock now => exact hd
      | create p => exact h.clock
      | delete p => exact h.clock
      | lookAt p => exact h.clock
      | failNext => exact h.clock

theorem Ordinary.run (h : s.Ordinary) {deeds : List Deed} (hd : ∀ d ∈ deeds, d.Ordinary) :
    (s.run deeds).Ordinary := by
  induction deeds generalizing s with
  | nil => exact h
  | cons d deeds ih =>
    have first := h.step (hd d List.mem_cons_self)
    exact ih first fun x hx => hd x (List.mem_cons_of_mem d hx)

/-- An id that a reply names is a GUID. -/
theorem serve_echo {c : Call} {answer : c.Answer} (h : serve now f c = .ok (answer, f'))
    {reply : LeaseReply} (hr : c.reply? answer = some reply) {id : String}
    (hi : reply.leaseId = some id) : Guid.isGuid id = true := by
  cases c with
  | acquire p timeout duration proposed =>
    obtain ⟨-, good, -, -, rfl⟩ := serve_acquire_eq_ok.mp h
    cases hr
    cases hi
    exact good
  | release p x timeout =>
    obtain ⟨-, -, -, rfl⟩ := serve_release_eq_ok.mp h
    cases hr
    cases hi
  | change p x proposed timeout =>
    obtain ⟨-, good, -, -, rfl⟩ := serve_change_eq_ok.mp h
    cases hr
    cases hi
    exact good
  | «break» p timeout => cases hr

theorem legible_refusal {status : Nat} {code message : String}
    (h : Http.LegibleRefusal status code message) :
    Http.LegibleError (refusal status code message) :=
  ⟨status, code, message, rfl, h⟩

theorem legible_notFound : Http.LegibleError notFound := legible_refusal (by decide +kernel)

theorem legible_badDuration : Http.LegibleError badDuration := legible_refusal (by decide +kernel)

theorem legible_badId {header : String} (h : header ∈ [idHeader, proposedIdHeader]) :
    Http.LegibleError (badId header) := by
  have all : ∀ header ∈ [idHeader, proposedIdHeader], Http.LegibleRefusal 400 "InvalidHeaderValue"
      ("The value for header " ++ header ++ " is not in the correct format.") := by decide +kernel
  exact legible_refusal (all header h)

theorem legible_alreadyPresent : Http.LegibleError alreadyPresent :=
  legible_refusal (by decide +kernel)

theorem legible_notPresent : Http.LegibleError notPresent := legible_refusal (by decide +kernel)

theorem legible_mismatch : Http.LegibleError mismatch := legible_refusal (by decide +kernel)

theorem serve_legible {c : Call} {e : TransportError} (h : serve now f c = .error e) :
    Http.LegibleError e := by
  have own : idHeader ∈ [idHeader, proposedIdHeader] := by simp
  have proposed : proposedIdHeader ∈ [idHeader, proposedIdHeader] := by simp
  cases c with
  | acquire p timeout duration id =>
    obtain ⟨-, rfl⟩ | ⟨-, ⟨-, rfl⟩ | ⟨-, -, rfl⟩⟩ := serve_acquire_eq_error.mp h
    · exact legible_badDuration
    · exact legible_badId proposed
    · exact legible_alreadyPresent
  | release p id timeout =>
    obtain ⟨-, rfl⟩ | ⟨-, ⟨-, rfl⟩ | ⟨-, rfl⟩⟩ := serve_release_eq_error.mp h
    · exact legible_badId own
    · exact legible_notPresent
    · exact legible_mismatch
  | change p id y timeout =>
    obtain ⟨-, rfl⟩ | ⟨-, ⟨-, rfl⟩ | ⟨-, ⟨-, rfl⟩ | ⟨-, rfl⟩⟩⟩ := serve_change_eq_error.mp h
    · exact legible_badId own
    · exact legible_badId proposed
    · exact legible_notPresent
    · exact legible_mismatch
  | «break» p timeout => exact absurd h serve_break_ne_error

/-- Whatever the service answers can be told, as long as its dates are those of the calendar. -/
theorem transport_legible {c : Call} {answer : Except TransportError c.Answer} (h : s.Ordinary)
    (ht : transport c s = (answer, s'))
    (inUse : ∀ a reply, answer = .ok a → c.reply? a = some reply →
      reply.lastModified.Representable) : Http.LegibleAnswer c answer := by
  cases answer with
  | error e =>
    obtain ⟨pending, -⟩ | ⟨-, -, ⟨-, rfl⟩ | ⟨f, -, hs⟩⟩ := transport_eq_error.mp ht
    · rw [h.awake] at pending
      cases pending
    · exact legible_notFound
    · exact serve_legible hs
  | ok a =>
    obtain ⟨-, f, f', hf, hs, -⟩ := transport_eq_ok.mp ht
    intro reply hr
    obtain ⟨etag, date⟩ := (serve_revision hs).2 reply hr
    obtain ⟨whole, since⟩ := serve_dates hs (h.dates _ f hf)
    rw [← date] at whole since
    refine ⟨?_, whole, inUse a reply rfl hr, Instant.year_civil_nonneg since, ?_⟩
    · rw [etag]
      exact f'.plain_etag
    · intro id hi
      have good := serve_echo hs hr hi
      exact ⟨Guid.plain_of_isGuid good, Guid.ne_empty_of_isGuid good⟩

/-- Calls of a service that others use as well: before each call the next of their deeds are
done. -/
def shared : Transport (Service × List (List Deed)) := fun c (s, others) =>
  let (answer, s) := transport c (s.run (others.headD []))
  (answer, (s, others.tail))

end Service

namespace Handle

/-- Over a whole run the answers of such a service can be told. -/
theorem turns_legible (asks : List Ask) {h : Handle} {s : Service}
    {others : List (List Service.Deed)} (hs : s.Ordinary)
    (ho : ∀ deeds ∈ others, ∀ d ∈ deeds, d.Ordinary)
    (inUse : ∀ x ∈ (h.turns Service.shared asks (s, others)).1, ∀ reply, x.reply? = some reply →
      reply.lastModified.Representable) :
    ∀ x ∈ (h.turns Service.shared asks (s, others)).1, Http.LegibleAnswer x.call x.answer := by
  induction asks generalizing h s others with
  | nil => exact fun x hx => by cases hx
  | cons a asks ih =>
    -- neither the others nor the call make the service leave the ordinary
    have hs₁ : (s.run (others.headD [])).Ordinary := by
      cases others with
      | nil => exact hs
      | cons deeds rest => exact hs.run (ho deeds List.mem_cons_self)
    rcases ht : Service.transport (a.call h) (s.run (others.headD [])) with ⟨answer, s'⟩
    have hs' : s'.Ordinary := by
      have next := hs₁.step (d := .call (a.call h)) trivial
      rwa [Service.step, ht] at next
    have shared : Service.shared (a.call h) (s, others) = (answer, (s', others.tail)) := by
      simp only [Service.shared, ht]
    rw [turns_cons, turn_world shared] at inUse ⊢
    intro x hx
    rcases List.mem_cons.mp hx with rfl | hx
    · show Http.LegibleAnswer (a.call h) (h.turn Service.shared a (s, others)).1.answer
      rw [turn_answer shared]
      refine Service.transport_legible hs₁ ht ?_
      rintro granted reply rfl hr
      refine inUse _ List.mem_cons_self reply ?_
      rw [turn_ok shared]
      exact hr
    · exact ih hs' (fun deeds hd => ho deeds (List.mem_of_mem_tail hd))
        (fun x hx => inUse x (List.mem_cons_of_mem _ hx)) x hx

/-- Let a server answer every request of a handle with what the service in memory, which others use
as well, answers to the same call. Then the handle sends one request for each operation, which
carries what the service was asked for, and takes the same turns: what the client is told, and the
id and the revision of the handle, are the same after each. The dates told are those that the
calendar in use has, which a service leaves behind only after millions of millions of calls. -/
theorem transports_agree (c : Http.Client) (can : c.CanSend) (h : Handle) (asks : List Ask)
    (now : Instant) (others : List (List Service.Deed)) (n : Http.Network) (rs : List Http.Reply)
    (clock : 0 ≤ now.seconds) (ordinary : ∀ deeds ∈ others, ∀ d ∈ deeds, d.Ordinary)
    (id : Http.isHeaderText h.id = true)
    (proposals : ∀ a ∈ asks, ∀ y, a.op = .change y → Http.isHeaderText y = true)
    (named : ∀ k, Guid.isGuid (n.requestId k) = true)
    (inUse : ∀ x ∈ (h.turns Service.shared asks (Service.start now, others)).1, ∀ reply,
      x.reply? = some reply → reply.lastModified.Representable)
    (written : List.Forall₂ (fun x r => r.Tells x.call x.answer)
      (h.turns Service.shared asks (Service.start now, others)).1 rs)
    (peer : n.peer = .serving (rs.map some)) :
    let memory := (h.turns Service.shared asks (Service.start now, others)).1
    let http := h.turns c.transport asks n
    http.1 = memory ∧ ∃ requests, http.2.log = n.log ++ requests ∧
      List.Forall₂ (fun x r => r.Carries x.call) memory requests :=
  turns_agree can asks id proposals
    (fun k => Http.isHeaderText_of_plain (Guid.plain_of_isGuid (named k)))
    (turns_legible asks (Service.ordinary_start clock) ordinary inUse) written peer

/-- The lease is taken and changed, then somebody breaks it, so that it cannot be released. -/
theorem transports_agree_after_break :
    let a := "aaaaaaaa-aaaa-4aaa-8aaa-aaaaaaaaaaaa"
    let b := "bbbbbbbb-bbbb-4bbb-8bbb-bbbbbbbbbbbb"
    let p : SharePath := ⟨"share", "f"⟩
    let h : Handle := ⟨a, none, p⟩
    let asks : List Ask := [⟨.acquire, none⟩, ⟨.change b, some 5⟩, ⟨.release, none⟩, ⟨.break, none⟩]
    let others : List (List Service.Deed) :=
      [[.command (.create p)], [.command (.clock ⟨1571177421, 9⟩)], [.call (.break p none)]]
    let c : Http.Client := ⟨⟨.http, [], none, .ipv4 0, none, [[]], none, none⟩, none, "v", 30, "u"⟩
    let memory := (h.turns Service.shared asks (Service.start ⟨951782400, 0⟩, others)).1
    let n : Http.Network := ⟨.serving ((replies memory).map some), [], 0, 0, fun _ => a⟩
    memory.map (·.result.toOption) = [some none, some none, none, some (some 0)] ∧
      (h.turns c.transport asks n).1 = memory ∧
      (h.turns c.transport asks n).2.log.length = 4 := by
  intro a b p h asks others c memory n
  have ordinary : ∀ deeds ∈ others, ∀ d ∈ deeds, d.Ordinary := by
    simp [others, Service.Deed.Ordinary]
  have proposals : ∀ a ∈ asks, ∀ y, a.op = .change y → Http.isHeaderText y = true := by
    have sendable : Http.isHeaderText b = true := by decide +kernel
    simp [asks, sendable]
  have inUse : ∀ x ∈ memory, ∀ reply, x.reply? = some reply → reply.lastModified.Representable := by
    have all : ∀ x ∈ memory, ∀ reply ∈ x.reply?, reply.lastModified.Representable := by
      decide +kernel
    exact all
  have clock : 0 ≤ (951782400 : Int) := by decide
  have guid : Guid.isGuid a = true := by decide +kernel
  have legible := turns_legible asks (Service.ordinary_start clock) ordinary inUse
  obtain ⟨agree, requests, log, carried⟩ := transports_agree c ⟨by decide, by decide⟩ h asks
    ⟨951782400, 0⟩ others n (replies memory) clock ordinary (by decide) proposals
    (fun _ => guid) inUse (replies_tell legible) rfl
  refine ⟨by decide +kernel, agree, ?_⟩
  rw [log, List.nil_append, ← carried.length_eq]
  decide +kernel

end Handle
end FileLease
