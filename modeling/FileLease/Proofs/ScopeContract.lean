import FileLease.Scope
import FileLease.Script

/-!
# What a scope promises over every way to make calls

A scope that gets its lease makes one release, after the work, under the id that the work was told;
one that is refused the lease does nothing more. The calls are noted down as they are made.
-/
namespace FileLease

variable {ω δ α : Type}

/-- Calls made as `t` makes them, each noted down after those before it. -/
def Transport.noting (t : Transport ω) (note : Call → δ) : Transport (ω × List δ) := fun c w =>
  let (answer, after) := t c w.1
  (answer, after, w.2 ++ [note c])

theorem noting_eq {t : Transport ω} {c : Call} {w w' : ω} {answer : Except TransportError c.Answer}
    (h : t c w = (answer, w')) (note : Call → δ) (past : List δ) :
    t.noting note c (w, past) = (answer, w', past ++ [note c]) := by
  simp only [Transport.noting, h]

namespace Exit

/-- How a scope ends if its release fails after the work: a value is lost to the failure. -/
def unreleased (e : TransportError) : Exit α → Exit α
  | .value _ => .failure (.ofTransport e)
  | exit => exit

/-- What a scope warns of if its release fails after the work: a failure that its end hides. -/
def warnings (path : SharePath) (e : TransportError) : Exit α → List Warning
  | .value _ => []
  | _ => [.releaseFailed path (.ofTransport e)]

theorem unreleased_of_no_value (exit : Exit α) (e : TransportError) (hv : ∀ v, exit ≠ .value v) :
    exit.unreleased e = exit := by
  cases exit with
  | value v => exact absurd rfl (hv v)
  | failure f => rfl
  | panic message => rfl
  | cancelled => rfl

end Exit

namespace Handle

variable {t : Transport ω} {later : Bool} {timeout : Option UInt32}
variable {body : String → ω → Exit α × ω} {h : Handle} {w w₁ w₂ w₃ : ω}

@[simp] theorem call_path (h : Handle) (op : Operation) (timeout : Option UInt32) :
    (op.call h timeout).path = h.path := by
  cases op <;> rfl

theorem perform_error (op : Operation) {e : TransportError}
    (he : t (op.call h timeout) w = (.error e, w₁)) :
    h.perform t op timeout w = (.error (.ofTransport e), h, w₁) := by
  simp only [perform, he]

theorem perform_ok (op : Operation) {answer : (op.call h timeout).Answer}
    (ha : t (op.call h timeout) w = (.ok answer, w₁)) :
    h.perform t op timeout w =
      (.ok (op.result h timeout answer), op.update h timeout answer, w₁) := by
  simp only [perform, ha]

theorem apply_id_of_none {reply : LeaseReply} (hn : reply.leaseId = none) :
    (h.apply reply).id = h.id := by
  simp only [apply, hn, Option.filter_none, Option.getD_none]

theorem apply_id_of_some {reply : LeaseReply} {id : String} (hs : reply.leaseId = some id) :
    (h.apply reply).id = if id = "" then h.id else id := by
  by_cases he : id = ""
  · simp [apply, hs, Option.filter, he]
  · simp [apply, hs, Option.filter, he]

theorem withLease_refused {e : TransportError}
    (he : t (.acquire h.path timeout .infinite h.id) w = (.error e, w₁)) :
    h.withLease t later timeout body w = ⟨.failure (.ofTransport e), h, [], none, w₁⟩ := by
  simp only [withLease, perform_error .acquire he]

theorem withLease_cancelled {reply : LeaseReply}
    (ha : t (.acquire h.path timeout .infinite h.id) w = (.ok reply, w₁))
    (hb : body (h.apply reply).id w₁ = (.cancelled, w₂)) :
    h.withLease t later timeout body w =
      if later then
        ⟨.cancelled, h.apply reply, [], some ⟨h.path, (h.apply reply).id, timeout⟩, w₂⟩
      else ⟨.cancelled, h.apply reply, [.leaseStaysHeld h.path], none, w₂⟩ := by
  simp only [withLease, perform_ok .acquire ha, Operation.update, hb]
  rfl

theorem withLease_released {reply last : LeaseReply} {exit : Exit α}
    (ha : t (.acquire h.path timeout .infinite h.id) w = (.ok reply, w₁))
    (hb : body (h.apply reply).id w₁ = (exit, w₂)) (hx : exit ≠ .cancelled)
    (hr : t (.release h.path (h.apply reply).id timeout) w₂ = (.ok last, w₃)) :
    h.withLease t later timeout body w = ⟨exit, (h.apply reply).apply last, [], none, w₃⟩ := by
  have hp := perform_ok (h := h.apply reply) .release hr
  simp only [withLease, perform_ok .acquire ha, Operation.update, hb]
  cases exit with
  | cancelled => exact absurd rfl hx
  | value a => simp only [hp, Operation.update]
  | failure f => simp only [hp, Operation.update]
  | panic message => simp only [hp, Operation.update]

theorem withLease_unreleased {reply : LeaseReply} {e : TransportError} {exit : Exit α}
    (ha : t (.acquire h.path timeout .infinite h.id) w = (.ok reply, w₁))
    (hb : body (h.apply reply).id w₁ = (exit, w₂)) (hx : exit ≠ .cancelled)
    (hr : t (.release h.path (h.apply reply).id timeout) w₂ = (.error e, w₃)) :
    h.withLease t later timeout body w =
      ⟨exit.unreleased e, h.apply reply, exit.warnings h.path e, none, w₃⟩ := by
  have hp := perform_error (h := h.apply reply) .release hr
  simp only [withLease, perform_ok .acquire ha, Operation.update, hb]
  cases exit with
  | cancelled => exact absurd rfl hx
  | value a =>
    simp only [hp]
    rfl
  | failure f =>
    simp only [hp]
    rfl
  | panic message =>
    simp only [hp]
    rfl

/-- A scope leaves its handle as it was, or updated by the acquire, or by the release as well. -/
theorem withLease_handle (t : Transport ω) (later : Bool) (timeout : Option UInt32)
    (body : String → ω → Exit α × ω) (h : Handle) (w : ω) :
    let after := (h.withLease t later timeout body w).handle
    after = h ∨ (∃ reply, after = h.apply reply) ∨
      ∃ reply last, after = (h.apply reply).apply last := by
  rcases ha : t (.acquire h.path timeout .infinite h.id) w with ⟨answer, w₁⟩
  cases answer with
  | error e =>
    rw [withLease_refused ha]
    exact .inl rfl
  | ok reply =>
    rcases hb : body (h.apply reply).id w₁ with ⟨exit, w₂⟩
    rcases hr : t (.release h.path (h.apply reply).id timeout) w₂ with ⟨answer, w₃⟩
    by_cases hx : exit = .cancelled
    · subst hx
      rw [withLease_cancelled ha hb]
      cases later <;> exact .inr (.inl ⟨reply, rfl⟩)
    · cases answer with
      | ok last =>
        rw [withLease_released ha hb hx hr]
        exact .inr (.inr ⟨reply, last, rfl⟩)
      | error e =>
        rw [withLease_unreleased ha hb hx hr]
        exact .inr (.inl ⟨reply, rfl⟩)

end Handle

theorem deferred_run_ok {t : Transport ω} (d : Deferred) {w w' : ω} {reply : LeaseReply}
    (hr : t (.release d.path d.leaseId d.timeout) w = (.ok reply, w')) :
    d.run t w = ([], w') := by
  simp only [Deferred.run, hr]

theorem deferred_run_noting (t : Transport ω) (d : Deferred) (w : ω) (past : List Call) :
    (d.run (t.noting id) (w, past)).2 =
      ((t (.release d.path d.leaseId d.timeout) w).2,
        past ++ [.release d.path d.leaseId d.timeout]) := by
  rcases hg : t (.release d.path d.leaseId d.timeout) w with ⟨answer, w'⟩
  simp only [Deferred.run, noting_eq hg]
  cases answer <;> rfl

/-- Refused the lease, a scope makes no other call and leaves the work undone. Otherwise the work is
told the id that the handle has by then, and one release under that id follows the work: at once if
the work ends, later or never if it is cancelled. -/
theorem withLease_releases_once (t : Transport ω) (later : Bool) (timeout : Option UInt32)
    (body : String → ω × List Call → Exit α × ω × List Call) (h : Handle) (w : ω)
    (past : List Call) :
    let scope := h.withLease (t.noting id) later timeout body (w, past)
    let ask := Call.acquire h.path timeout .infinite h.id
    (∀ e w₁, t ask w = (.error e, w₁) →
      scope.exit = .failure (.ofTransport e) ∧ scope.handle = h ∧
        scope.world = (w₁, past ++ [ask]) ∧ scope.deferred = none) ∧
    ∀ reply w₁, t ask w = (.ok reply, w₁) →
      let held := h.apply reply
      let give := Call.release h.path held.id timeout
      ∀ exit w₂ past₂, body held.id (w₁, past ++ [ask]) = (exit, w₂, past₂) →
        (exit ≠ .cancelled →
          scope.world = ((t give w₂).2, past₂ ++ [give]) ∧ scope.deferred = none ∧
          (∀ last w₃, t give w₂ = (.ok last, w₃) →
            scope.exit = exit ∧ scope.handle = held.apply last) ∧
          ∀ e w₃, t give w₂ = (.error e, w₃) → scope.handle = held ∧
            (∀ v, exit = .value v → scope.exit = .failure (.ofTransport e)) ∧
            ((∀ v, exit ≠ .value v) → scope.exit = exit)) ∧
        (exit = .cancelled →
          scope.exit = .cancelled ∧ scope.handle = held ∧ scope.world = (w₂, past₂) ∧
          (later = false → scope.deferred = none) ∧
          (later = true → ∃ d, scope.deferred = some d ∧ ∀ w₄ past₄,
            (d.run (t.noting id) (w₄, past₄)).2 = ((t give w₄).2, past₄ ++ [give]))) := by
  intro scope ask
  constructor
  · intro e w₁ he
    have hs : scope = _ := Handle.withLease_refused (noting_eq he id past)
    rw [hs]
    exact ⟨rfl, rfl, rfl, rfl⟩
  · intro reply w₁ ha held give exit w₂ past₂ hb
    have ha' := noting_eq ha id past
    constructor
    · intro hx
      rcases hg : t give w₂ with ⟨answer, w₃⟩
      have hg' := noting_eq hg id past₂
      cases answer with
      | ok last =>
        have hs : scope = _ := Handle.withLease_released ha' hb hx hg'
        rw [hs]
        refine ⟨rfl, rfl, ?_, ?_⟩
        · intro last' w₃' h'
          cases h'
          exact ⟨rfl, rfl⟩
        · intro e w₃' h'
          cases h'
      | error e =>
        have hs : scope = _ := Handle.withLease_unreleased ha' hb hx hg'
        rw [hs]
        refine ⟨rfl, rfl, fun last w₃' h' => (by cases h'), ?_⟩
        intro e' w₃' h'
        cases h'
        refine ⟨rfl, ?_, exit.unreleased_of_no_value e⟩
        rintro v rfl
        rfl
    · rintro rfl
      have hs : scope = _ := Handle.withLease_cancelled ha' hb
      cases later with
      | false =>
        rw [hs]
        exact ⟨rfl, rfl, rfl, fun _ => rfl, fun h' => by cases h'⟩
      | true =>
        rw [hs]
        refine ⟨rfl, rfl, rfl, fun h' => (by cases h'), fun _ => ⟨_, rfl, ?_⟩⟩
        intro w₄ past₄
        exact deferred_run_noting t _ w₄ past₄

/-- The service names an id of its own, the work panics with the id that it is told, and then the
release fails. -/
theorem withLease_releases_once_after_panic :
    let h : Handle := ⟨"x", none, ⟨"share", "f"⟩⟩
    let reply : LeaseReply := ⟨some "y", "e", .epoch⟩
    let scope := h.withLease (Script.transport.noting id) true none
      (fun id world => ((.panic id : Exit Unit), world)) ([.lease reply, .failure .timeout], [])
    scope.exit = .panic "y" ∧ scope.handle = h.apply reply ∧ scope.deferred = none ∧
      scope.world = ([], [.acquire ⟨"share", "f"⟩ none .infinite "x",
        .release ⟨"share", "f"⟩ "y" none]) := by
  intro h reply scope
  obtain ⟨-, granted⟩ := withLease_releases_once Script.transport true none
    (fun id world => ((.panic id : Exit Unit), world)) h [.lease reply, .failure .timeout] []
  obtain ⟨ended, -⟩ := granted reply _ rfl (.panic "y") _ _ rfl
  obtain ⟨world, deferred, -, failed⟩ := ended (fun hx => by cases hx)
  obtain ⟨handle, -, exit⟩ := failed .timeout [] rfl
  exact ⟨exit fun v hv => (by cases hv), handle, deferred, world⟩

end FileLease
