import FileLease.Proofs.HandleIds
import FileLease.Proofs.HandleTurns
import FileLease.Proofs.LeaseExclusion

/-!
# Releases that come late

The release that a cancelled scope leaves behind names its lease by the id alone. It may be made
when the handle has acquired the file again, and then it ends that lease too, if the id is still the
same and no timeout comes in between. It ends no lease under another id.
-/
namespace FileLease

variable {α ω : Type}

theorem Handle.perform_path (t : Transport ω) (op : Operation) (timeout : Option UInt32)
    (h : Handle) (w : ω) : (h.perform t op timeout w).2.1.path = h.path :=
  turn_path t ⟨op, timeout⟩ h w

theorem Use.after_path (t : Transport ω) (use : Use α ω) (x : Handle × ω) :
    (use.after t x).1.path = x.1.path := by
  obtain ⟨h, w⟩ := x
  cases use with
  | operation op timeout => exact h.perform_path t op timeout w
  | scope later timeout body =>
    show (h.withLease t later timeout body w).handle.path = h.path
    obtain he | ⟨reply, he⟩ | ⟨reply, last, he⟩ := Handle.withLease_handle t later timeout body h w
    · rw [he]
    · rw [he]
      rfl
    · rw [he]
      rfl

/-- What happens while a release is pending: the handle is used, or others do something. -/
inductive Event (α : Type)
  | own (use : Use α Service)
  | others (d : Service.Deed)

namespace Event

def after : Event α → Handle × Service → Handle × Service
  | .own use, x => use.after Service.transport x
  | .others d, (h, s) => (h, s.step d)

def afterAll (events : List (Event α)) (x : Handle × Service) : Handle × Service :=
  events.foldl (fun x e => e.after x) x

theorem afterAll_path (events : List (Event α)) (x : Handle × Service) :
    (afterAll events x).1.path = x.1.path := by
  induction events generalizing x with
  | nil => rfl
  | cons e events ih =>
    have step : (e.after x).1.path = x.1.path := by
      cases e with
      | own use => exact use.after_path Service.transport x
      | others d => rfl
    exact (ih (e.after x)).trans step

end Event

namespace Service

variable {s : Service} {p : SharePath} {id : String}

/-- A deed that takes the lease of `p` away from `id`: it can, and if it is a call, it is
granted. -/
def Deed.Takes (s : Service) (p : SharePath) (id : String) (d : Deed) : Prop :=
  d.Ends p id ∧ ∀ c, d = .call c → ∃ answer, (transport c s).1 = .ok answer

def Untaken (s : Service) (p : SharePath) (id : String) (deeds : List Deed) : Prop :=
  ∀ before d after, deeds = before ++ d :: after → ¬ d.Takes (s.run before) p id

theorem untaken_nil : s.Untaken p id [] := by
  intro before d after split
  simp at split

theorem untaken_cons {d : Deed} {deeds : List Deed} :
    s.Untaken p id (d :: deeds) ↔ ¬ d.Takes s p id ∧ (s.step d).Untaken p id deeds := by
  constructor
  · intro quiet
    refine ⟨quiet [] d deeds rfl, ?_⟩
    rintro before x after rfl
    exact quiet (d :: before) x after rfl
  · rintro ⟨first, rest⟩ before x after split
    cases before with
    | nil =>
      obtain ⟨rfl, rfl⟩ := List.cons.inj split
      exact first
    | cons y before =>
      obtain ⟨rfl, rfl⟩ := List.cons.inj split
      exact rest before x after rfl

theorem lease?_of_error {s' : Service} {c : Call} {e : TransportError}
    (failed : transport c s = (.error e, s')) : s'.lease? p = s.lease? p := by
  rw [lease?, transport_error_files failed, lease?]

theorem lease?_step_untaken {d : Deed} (held : s.lease? p = some (.leased id))
    (quiet : ¬ d.Takes s p id) : (s.step d).lease? p = some (.leased id) := by
  by_cases ends : d.Ends p id
  · cases d with
    | command c => exact absurd ⟨ends, nofun⟩ quiet
    | call c =>
      rcases h : transport c s with ⟨result, s'⟩
      cases result with
      | error e =>
        rw [step, h, ← held]
        exact lease?_of_error h
      | ok answer =>
        refine absurd ⟨ends, ?_⟩ quiet
        rintro _ ⟨⟩
        exact ⟨answer, congrArg Prod.fst h⟩
  · exact lease?_step held ends

theorem lease?_run_untaken {deeds : List Deed} (held : s.lease? p = some (.leased id))
    (quiet : s.Untaken p id deeds) : (s.run deeds).lease? p = some (.leased id) := by
  induction deeds generalizing s with
  | nil => exact held
  | cons d deeds ih =>
    obtain ⟨first, rest⟩ := untaken_cons.mp quiet
    exact ih (lease?_step_untaken held first) rest

/-- A release ends the lease under its id unless it is made to time out, and no other. -/
theorem release_spares_iff {a : String} (held : s.lease? p = some (.leased id))
    (guid : Guid.isGuid id = true) (timeout : Option UInt32) :
    let after := (transport (.release p a timeout) s).2
    (after.lease? p = some (.leased id) ↔ id ≠ a ∨ s.store.timeoutPending = true) ∧
      (after.lease? p = some (.leased id) ∨ after.lease? p = some .available) := by
  intro after
  by_cases same : id = a
  · subst same
    cases pending : s.store.timeoutPending with
    | true =>
      have failed := (transport_eq_error (c := .release p id timeout)).mpr
        (.inl ⟨pending, rfl, rfl⟩)
      have still : after.lease? p = some (.leased id) := by
        rw [show after = _ from congrArg Prod.snd failed, ← held]
        exact lease?_of_error failed
      exact ⟨iff_of_true still (.inr rfl), .inl still⟩
    | false =>
      obtain ⟨reply, s', granted, free⟩ := release_granted held guid pending timeout
      have ended : after.lease? p = some .available := by
        rw [show after = s' from congrArg Prod.snd granted, free]
      exact ⟨iff_of_false (by simp [ended]) (by simp), .inr ended⟩
  · have other : ¬ (Deed.call (.release p a timeout)).Ends p id := fun ends => same ends.2.symm
    have still : after.lease? p = some (.leased id) := lease?_step held other
    exact ⟨iff_of_true still (.inl same), .inl still⟩

end Service

theorem Deferred.run_world (t : Transport ω) (d : Deferred) (w : ω) :
    (d.run t w).2 = (t (.release d.path d.leaseId d.timeout) w).2 := by
  rcases h : t (.release d.path d.leaseId d.timeout) w with ⟨answer, w'⟩
  cases answer <;> simp only [run, h]

namespace Handle

variable {h : Handle} {timeout : Option UInt32} {body : String → Service → Exit α × Service}
variable {s : Service} {d : Deferred}

theorem apply_id_of_own {reply : LeaseReply} (own : reply.leaseId = some h.id) :
    (h.apply reply).id = h.id := by
  rw [apply_id_of_some own, ite_self]

/-- On the service in memory the release that is left is under the id of the handle before it. -/
theorem deferred_eq
    (left : (h.withLease Service.transport true timeout body s).deferred = some d) :
    d = ⟨h.path, h.id, timeout⟩ := by
  rcases ha : Service.transport (.acquire h.path timeout .infinite h.id) s with ⟨answer, s₁⟩
  cases answer with
  | error e =>
    rw [withLease_refused ha] at left
    cases left
  | ok reply =>
    obtain ⟨-, echo, -⟩ := Service.acquire_granted ha
    have same : (h.apply reply).id = h.id := apply_id_of_own echo
    rcases hb : body (h.apply reply).id s₁ with ⟨exit, s₂⟩
    by_cases hx : exit = .cancelled
    · subst hx
      rw [withLease_cancelled ha hb, if_pos rfl, same] at left
      exact (Option.some.inj left).symm
    · rcases hr : Service.transport (.release h.path (h.apply reply).id timeout) s₂ with
        ⟨answer, s₃⟩
      cases answer with
      | error e =>
        rw [withLease_unreleased ha hb hx hr] at left
        cases left
      | ok last =>
        rw [withLease_released ha hb hx hr] at left
        cases left

theorem withLease_path (t : Transport ω) (later : Bool) (timeout : Option UInt32)
    (body : String → ω → Exit α × ω) (h : Handle) (w : ω) :
    (h.withLease t later timeout body w).handle.path = h.path :=
  Use.after_path t (.scope later timeout body) (h, w)

/-- An acquire that is granted leaves the file leased to the handle, under its id. -/
theorem perform_acquire_granted {seconds : Option UInt32} {y : Handle × Service}
    (granted : h.perform Service.transport .acquire timeout s = (.ok seconds, y)) :
    Guid.isGuid y.1.id = true ∧ y.2.lease? y.1.path = some (.leased y.1.id) := by
  rcases ha : Service.transport (.acquire h.path timeout .infinite h.id) s with ⟨answer, s₁⟩
  cases answer with
  | error e =>
    rw [perform_error .acquire ha] at granted
    cases granted
  | ok reply =>
    obtain ⟨guid, echo, held⟩ := Service.acquire_granted ha
    rw [← apply_id_of_own echo] at guid held
    rw [perform_ok .acquire ha] at granted
    cases granted
    exact ⟨guid, held⟩

variable {β : Type}

/-- A cancelled scope leaves a release under the id of its handle. Whatever is done before it is
made, if the handle was last granted the lease and nobody took it away since, then it keeps the
lease exactly if it goes by another id by then or the release is made to time out. -/
theorem late_release_spares_iff
    (left : (h.withLease Service.transport true timeout body s).deferred = some d)
    (events : List (Event β)) :
    let scope := h.withLease Service.transport true timeout body s
    let x := Event.afterAll events (scope.handle, scope.world)
    d = ⟨h.path, h.id, timeout⟩ ∧
      ∀ timeout' seconds y,
        x.1.perform Service.transport .acquire timeout' x.2 = (.ok seconds, y) →
        ∀ rest, y.2.Untaken h.path y.1.id rest →
        let before := y.2.run rest
        let after := (d.run Service.transport before).2
        before.lease? h.path = some (.leased y.1.id) ∧
          (after.lease? h.path = some (.leased y.1.id) ↔
            y.1.id ≠ h.id ∨ before.store.timeoutPending = true) ∧
          (after.lease? h.path = some (.leased y.1.id) ∨
            after.lease? h.path = some .available) := by
  intro scope x
  have named := deferred_eq left
  refine ⟨named, ?_⟩
  intro timeout' seconds y granted rest quiet before after
  -- the handle may have got another id in the meantime, but it keeps its path
  have path : y.1.path = h.path :=
    calc y.1.path
      _ = (x.1.perform Service.transport .acquire timeout' x.2).2.1.path := by rw [granted]
      _ = x.1.path := x.1.perform_path Service.transport .acquire timeout' x.2
      _ = scope.handle.path := Event.afterAll_path events (scope.handle, scope.world)
      _ = h.path := withLease_path Service.transport true timeout body h s
  obtain ⟨guid, held⟩ := perform_acquire_granted granted
  rw [path] at held
  have still : before.lease? h.path = some (.leased y.1.id) := Service.lease?_run_untaken held quiet
  have made : after = (Service.transport (.release h.path h.id timeout) before).2 := by
    rw [show after = _ from d.run_world Service.transport before, named]
  rw [made]
  exact ⟨still, Service.release_spares_iff still guid timeout⟩

/-- The handle changes its id while the release of its scope is pending, and acquires. A rival who
would break the lease is timed out, and the release is refused when it is made. -/
theorem late_release_spares_renamed :
    let p : SharePath := ⟨"share", "f"⟩
    let a := "aaaaaaaa-aaaa-4aaa-8aaa-aaaaaaaaaaaa"
    let b := "bbbbbbbb-bbbb-4bbb-8bbb-bbbbbbbbbbbb"
    let h : Handle := ⟨a, none, p⟩
    let s := (Service.start .epoch).run [.command (.create p)]
    let body : String → Service → Exit Unit × Service := fun _ s => (.cancelled, s)
    let scope := h.withLease Service.transport true none body s
    let d : Deferred := ⟨p, a, none⟩
    let events : List (Event Unit) :=
      [.own (.operation (.change b) none), .others (.call (.acquire p none .infinite a))]
    let x := Event.afterAll events (scope.handle, scope.world)
    let acquired := x.1.perform Service.transport .acquire none x.2
    let y := acquired.2
    let rest : List Service.Deed := [.command .failNext, .call (.break p none)]
    scope.deferred = some d ∧ acquired = (.ok none, y) ∧ y.2.Untaken p y.1.id rest ∧ y.1.id = b ∧
      (d.run Service.transport (y.2.run rest)).2.lease? p = some (.leased b) := by
  intro p a b h s body scope d events x acquired y rest
  have left : scope.deferred = some d := by decide +kernel
  have granted : acquired = (.ok none, y) := eq_ok_of_toOption (by decide +kernel)
  have renamed : y.1.id = b := by decide +kernel
  have command : ¬ (Service.Deed.command .failNext).Takes y.2 p y.1.id := nofun
  have timed_out :
      ¬ (Service.Deed.call (.break p none)).Takes (y.2.step (.command .failNext)) p y.1.id := by
    rintro ⟨-, answered⟩
    obtain ⟨answer, granted⟩ := answered _ rfl
    cases granted
  have quiet : y.2.Untaken p y.1.id rest :=
    Service.untaken_cons.mpr ⟨command, Service.untaken_cons.mpr ⟨timed_out, Service.untaken_nil⟩⟩
  have late := (late_release_spares_iff left events).2
  have spared := (late none none y granted rest quiet).2.1
  rw [renamed] at spared
  have other : b ≠ a := by decide
  exact ⟨left, granted, quiet, renamed, spared.mpr (.inl other)⟩

/-- The handle is granted the lease anew while the release of its scope is pending, under the id
that it has, and the release takes the lease away from it. -/
theorem late_release_ends_renewal :
    let p : SharePath := ⟨"share", "f"⟩
    let h : Handle := ⟨"aaaaaaaa-aaaa-4aaa-8aaa-aaaaaaaaaaaa", none, p⟩
    let s := (Service.start .epoch).run [.command (.create p)]
    let body : String → Service → Exit Unit × Service := fun _ s => (.cancelled, s)
    let scope := h.withLease Service.transport true none body s
    let acquired := scope.handle.perform Service.transport .acquire none scope.world
    s.Reachable ∧ acquired.1 = .ok none ∧ acquired.2.2.lease? p = some (.leased h.id) ∧
      ∃ d, scope.deferred = some d ∧
        (d.run Service.transport acquired.2.2).2.lease? p = some .available := by
  intro p h s body scope acquired
  have reached : s.Reachable := ⟨.epoch, _, rfl⟩
  have left : scope.deferred = some ⟨p, h.id, none⟩ := by decide +kernel
  have granted : acquired = (.ok none, acquired.2) := eq_ok_of_toOption (by decide +kernel)
  have held : acquired.2.2.lease? p = some (.leased h.id) := by decide +kernel
  have ended : ((⟨p, h.id, none⟩ : Deferred).run Service.transport acquired.2.2).2.lease? p =
      some .available := by decide +kernel
  exact ⟨reached, congrArg Prod.fst granted, held, ⟨p, h.id, none⟩, left, ended⟩

end Handle
end FileLease
