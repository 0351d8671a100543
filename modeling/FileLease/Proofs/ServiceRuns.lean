import FileLease.Service

/-!
# Runs of the service in memory

A deed is a call or a command. What a granted call does to the file that it names, and what a deed
does to any file, is said here once; invariants of whole runs are derived from it.
-/
namespace FileLease

@[simp] theorem pure_eq_ok {ε α : Type} (a : α) : (pure a : Except ε α) = .ok a := rfl

@[simp] theorem throw_eq_error {ε α : Type} (e : ε) : (throw e : Except ε α) = .error e := rfl

@[simp] theorem ok_bind {ε α β : Type} (a : α) (g : α → Except ε β) :
    Except.ok a >>= g = g a := rfl

@[simp] theorem error_bind {ε α β : Type} (e : ε) (g : α → Except ε β) :
    Except.error e >>= g = .error e := rfl

theorem bind_eq_ok {ε α β : Type} {x : Except ε α} {g : α → Except ε β} {b : β} :
    x >>= g = .ok b ↔ ∃ a, x = .ok a ∧ g a = .ok b := by
  cases x <;> simp

theorem map_eq_ok {ε α β : Type} {x : Except ε α} {g : α → β} {b : β} :
    x.map g = .ok b ↔ ∃ a, x = .ok a ∧ g a = b := by
  cases x <;> simp [Except.map]

theorem mapError_eq_ok {ε ε' α : Type} {x : Except ε α} {g : ε → ε'} {a : α} :
    x.mapError g = .ok a ↔ x = .ok a := by
  cases x with
  | error e => exact ⟨fun h => (by cases h), fun h => (by cases h)⟩
  | ok b => exact ⟨fun h => congrArg _ (Except.ok.inj h), fun h => congrArg _ (Except.ok.inj h)⟩

theorem bind_eq_error {ε α β : Type} {x : Except ε α} {g : α → Except ε β} {e : ε} :
    x >>= g = .error e ↔ x = .error e ∨ ∃ a, x = .ok a ∧ g a = .error e := by
  cases x <;> simp

theorem ok_of_toOption {ε α : Type} {x : Except ε α} {a : α} (h : x.toOption = some a) :
    x = .ok a := by
  cases x with
  | error e => cases h
  | ok b =>
    cases h
    rfl

theorem eq_ok_of_toOption {ε α σ : Type} {x : Except ε α × σ} {a : α}
    (h : x.1.toOption = some a) : x = (.ok a, x.2) :=
  Prod.ext (ok_of_toOption h) rfl

namespace Service

/-- What happens to a service: a command, or a call at the time of its clock. -/
inductive Deed
  | command (c : Command)
  | call (c : Call)
  deriving DecidableEq

def step (s : Service) : Deed → Service
  | .command c => (s.obey c).2
  | .call c => (transport c s).2

def run (s : Service) (deeds : List Deed) : Service :=
  deeds.foldl step s

@[simp] theorem run_nil (s : Service) : s.run [] = s := rfl

@[simp] theorem run_cons (s : Service) (d : Deed) (deeds : List Deed) :
    s.run (d :: deeds) = (s.step d).run deeds := rfl

@[simp] theorem run_append (s : Service) (deeds more : List Deed) :
    s.run (deeds ++ more) = (s.run deeds).run more := List.foldl_append

def start (now : Instant) : Service :=
  ⟨.empty, now⟩

/-- The states that a service without files gets into. -/
def Reachable (s : Service) : Prop :=
  ∃ now deeds, s = (start now).run deeds

def lease? (s : Service) (p : SharePath) : Option LeaseState :=
  (s.store.files p).map (·.lease)

theorem checkId_eq_ok {header id : String} {u : Unit} :
    checkId header id = .ok u ↔ Guid.isGuid id = true := by
  unfold checkId
  split <;> simp_all

theorem checkLease_eq_ok {p : String → Bool} {lease : LeaseState} {u : Unit} :
    checkLease p lease = .ok u ↔ ∃ id, lease = .leased id ∧ p id = true := by
  cases lease with
  | available => simp [checkLease]
  | leased id =>
    simp only [checkLease, LeaseState.leased.injEq, exists_eq_left']
    split <;> simp_all
  | broken => simp [checkLease]

theorem checkId_eq_error {header id : String} {e : TransportError} :
    checkId header id = .error e ↔ Guid.isGuid id = false ∧ e = badId header := by
  unfold checkId
  split <;> simp_all [@eq_comm TransportError e]

theorem checkLease_eq_error {p : String → Bool} {lease : LeaseState} {e : TransportError} :
    checkLease p lease = .error e ↔
      ((lease = .available ∨ lease = .broken) ∧ e = notPresent) ∨
        (∃ id, lease = .leased id ∧ p id = false) ∧ e = mismatch := by
  cases lease with
  | available => simp [checkLease, @eq_comm TransportError e]
  | leased id =>
    simp only [checkLease, LeaseState.leased.injEq, exists_eq_left']
    split <;> simp_all [@eq_comm TransportError e]
  | broken => simp [checkLease, @eq_comm TransportError e]

private theorem reply_and_file {g f : FileState} {id : Option String} {reply : LeaseReply} :
    g.reply id = reply ∧ g = f ↔ f = g ∧ reply = f.reply id := by
  constructor
  · rintro ⟨rfl, rfl⟩
    exact ⟨rfl, rfl⟩
  · rintro ⟨rfl, rfl⟩
    exact ⟨rfl, rfl⟩

variable {now : Instant} {f f' : FileState} {p : SharePath} {timeout : Option UInt32}
variable {e : TransportError}

theorem serve_acquire_eq_ok {duration : LeaseDuration} {id : String} {reply : LeaseReply} :
    serve now f (.acquire p timeout duration id) = .ok (reply, f') ↔
      duration = .infinite ∧ Guid.isGuid id = true ∧ (∀ x, f.lease = .leased x → x = id) ∧
        f' = f.touched now (.leased id) ∧ reply = f'.reply (some id) := by
  by_cases hd : duration = .infinite
  · by_cases hg : Guid.isGuid id = true
    · cases hl : f.lease with
      | available => simp [serve, checkId, hd, hg, hl, reply_and_file]
      | leased x =>
        by_cases hx : x = id
        · simp [serve, checkId, hd, hg, hl, hx, reply_and_file]
        · simp [serve, checkId, hd, hg, hl, hx]
      | broken => simp [serve, checkId, hd, hg, hl, reply_and_file]
    · simp [serve, checkId, hd, hg]
  · simp [serve, hd]

theorem serve_release_eq_ok {id : String} {reply : LeaseReply} :
    serve now f (.release p id timeout) = .ok (reply, f') ↔
      Guid.isGuid id = true ∧ f.lease = .leased id ∧
        f' = f.touched now .available ∧ reply = f'.reply none := by
  simp [serve, bind_eq_ok, checkId_eq_ok, checkLease_eq_ok, reply_and_file]

theorem serve_change_eq_ok {id proposed : String} {reply : LeaseReply} :
    serve now f (.change p id proposed timeout) = .ok (reply, f') ↔
      Guid.isGuid id = true ∧ Guid.isGuid proposed = true ∧
        (f.lease = .leased id ∨ f.lease = .leased proposed) ∧
        f' = f.touched now (.leased proposed) ∧ reply = f'.reply (some proposed) := by
  have hl : (∃ x, f.lease = .leased x ∧ (x = id ∨ x = proposed)) ↔
      f.lease = .leased id ∨ f.lease = .leased proposed := by
    constructor
    · rintro ⟨x, hx, rfl | rfl⟩
      · exact .inl hx
      · exact .inr hx
    · rintro (hx | hx)
      · exact ⟨id, hx, .inl rfl⟩
      · exact ⟨proposed, hx, .inr rfl⟩
  simp [serve, bind_eq_ok, checkId_eq_ok, checkLease_eq_ok, reply_and_file, hl]

theorem serve_break_eq_ok {seconds : UInt32} :
    serve now f (.break p timeout) = .ok (seconds, f') ↔
      seconds = 0 ∧ f' = match f.lease with
        | .leased _ => f.touched now .broken
        | .available | .broken => f := by
  cases hl : f.lease <;> simp [serve, hl, eq_comm]

/-- A lease is only ever given to a GUID. -/
theorem serve_leased_isGuid {c : Call} {answer : c.Answer} {id : String}
    (h : serve now f c = .ok (answer, f')) (hl : f'.lease = .leased id) :
    Guid.isGuid id = true := by
  cases c with
  | acquire p timeout duration proposed =>
    obtain ⟨-, hg, -, rfl, -⟩ := serve_acquire_eq_ok.mp h
    cases hl
    exact hg
  | release p x timeout =>
    obtain ⟨-, -, rfl, -⟩ := serve_release_eq_ok.mp h
    cases hl
  | change p x proposed timeout =>
    obtain ⟨-, hg, -, rfl, -⟩ := serve_change_eq_ok.mp h
    cases hl
    exact hg
  | «break» p timeout =>
    obtain ⟨-, rfl⟩ := serve_break_eq_ok.mp h
    cases hf' : f.lease with
    | available => simp [hf'] at hl
    | leased x => simp [hf', FileState.touched] at hl
    | broken => simp [hf'] at hl

theorem serve_acquire_eq_error {duration : LeaseDuration} {id : String} :
    serve now f (.acquire p timeout duration id) = .error e ↔
      (duration ≠ .infinite ∧ e = badDuration) ∨
      duration = .infinite ∧ ((Guid.isGuid id = false ∧ e = badId proposedIdHeader) ∨
        Guid.isGuid id = true ∧ (∃ x, f.lease = .leased x ∧ x ≠ id) ∧ e = alreadyPresent) := by
  by_cases hd : duration = .infinite
  · by_cases hg : Guid.isGuid id = true
    · cases hl : f.lease with
      | available => simp [serve, checkId, hd, hg, hl]
      | leased x =>
        by_cases hx : x = id
        · simp [serve, checkId, hd, hg, hl, hx]
        · simp [serve, checkId, hd, hg, hl, hx, @eq_comm TransportError e]
      | broken => simp [serve, checkId, hd, hg, hl]
    · simp [serve, checkId, hd, hg, @eq_comm TransportError e]
  · simp [serve, hd, @eq_comm TransportError e]

theorem serve_release_eq_error {id : String} :
    serve now f (.release p id timeout) = .error e ↔
      (Guid.isGuid id = false ∧ e = badId idHeader) ∨ Guid.isGuid id = true ∧
        (((f.lease = .available ∨ f.lease = .broken) ∧ e = notPresent) ∨
          (∃ x, f.lease = .leased x ∧ x ≠ id) ∧ e = mismatch) := by
  simp [serve, bind_eq_error, checkId_eq_ok, checkId_eq_error, checkLease_eq_error]

theorem serve_change_eq_error {id proposed : String} :
    serve now f (.change p id proposed timeout) = .error e ↔
      (Guid.isGuid id = false ∧ e = badId idHeader) ∨ Guid.isGuid id = true ∧
        ((Guid.isGuid proposed = false ∧ e = badId proposedIdHeader) ∨
          Guid.isGuid proposed = true ∧
            (((f.lease = .available ∨ f.lease = .broken) ∧ e = notPresent) ∨
              (∃ x, f.lease = .leased x ∧ x ≠ id ∧ x ≠ proposed) ∧ e = mismatch)) := by
  simp [serve, bind_eq_error, checkId_eq_ok, checkId_eq_error, checkLease_eq_error]

theorem serve_break_ne_error : serve now f (.break p timeout) ≠ .error e := by
  cases hl : f.lease <;> simp [serve, hl]

theorem transport_eq_ok {s s' : Service} {c : Call} {answer : c.Answer} :
    transport c s = (.ok answer, s') ↔
      s.store.timeoutPending = false ∧ ∃ f f', s.store.files c.path = some f ∧
        serve s.clock f c = .ok (answer, f') ∧
        s' = { s with store := s.store.put c.path (some f') } := by
  cases hp : s.store.timeoutPending with
  | true => simp [transport, Store.answer, hp]
  | false =>
    cases hf : s.store.files c.path with
    | none => simp [transport, Store.answer, hp, hf]
    | some f =>
      cases hs : serve s.clock f c with
      | error e => simp [transport, Store.answer, hp, hf, hs]
      | ok served =>
        obtain ⟨answer', f'⟩ := served
        have he : transport c s =
            (.ok answer', { s with store := s.store.put c.path (some f') }) := by
          simp [transport, Store.answer, hp, hf, hs]
        rw [he]
        constructor
        · intro h
          cases h
          exact ⟨rfl, f, f', rfl, hs, rfl⟩
        · rintro ⟨-, g, g', hg, hg', rfl⟩
          cases hg
          cases hs.symm.trans hg'
          rfl

/-- A failed call takes back a pending timeout and does nothing else. -/
theorem transport_eq_error {s s' : Service} {c : Call} {e : TransportError} :
    transport c s = (.error e, s') ↔
      (s.store.timeoutPending = true ∧ e = .timeout ∧
        s' = { s with store := { s.store with timeoutPending := false } }) ∨
      (s.store.timeoutPending = false ∧ s' = s ∧
        ((s.store.files c.path = none ∧ e = notFound) ∨
          ∃ f, s.store.files c.path = some f ∧ serve s.clock f c = .error e)) := by
  cases hp : s.store.timeoutPending with
  | true => simp [transport, Store.answer, hp, @eq_comm _ e, @eq_comm _ s']
  | false =>
    cases hf : s.store.files c.path with
    | none =>
      have ht : transport c s = (.error notFound, s) := by simp [transport, Store.answer, hp, hf]
      simp [ht, @eq_comm _ e, @eq_comm _ s', and_comm]
    | some f =>
      cases hs : serve s.clock f c with
      | error e' =>
        have ht : transport c s = (.error e', s) := by
          simp [transport, Store.answer, hp, hf, hs]
        simp [ht, hs, @eq_comm _ s', and_comm]
      | ok served => simp [transport, Store.answer, hp, hf, hs]

theorem transport_error_files {s s' : Service} {c : Call} {e : TransportError}
    (h : transport c s = (.error e, s')) : s'.store.files = s.store.files := by
  obtain ⟨-, -, rfl⟩ | ⟨-, rfl, -⟩ := transport_eq_error.mp h
  · rfl
  · rfl

@[simp] theorem put_files_self (s : Store) (p : SharePath) (file : Option FileState) :
    (s.put p file).files p = file := by simp [Store.put]

theorem put_files_of_ne (s : Store) {p q : SharePath} (h : q ≠ p) (file : Option FileState) :
    (s.put p file).files q = s.files q := by simp [Store.put, h]

theorem acquire_granted {s s' : Service} {p : SharePath} {timeout : Option UInt32}
    {duration : LeaseDuration} {id : String} {reply : LeaseReply}
    (h : transport (.acquire p timeout duration id) s = (.ok reply, s')) :
    Guid.isGuid id = true ∧ reply.leaseId = some id ∧ s'.lease? p = some (.leased id) := by
  obtain ⟨-, f, f', -, hs, rfl⟩ := transport_eq_ok.mp h
  obtain ⟨-, hg, -, rfl, rfl⟩ := serve_acquire_eq_ok.mp hs
  refine ⟨hg, rfl, ?_⟩
  simp [lease?, Call.path, FileState.touched]

theorem acquire_available {s : Service} {p : SharePath} {id : String}
    (free : s.lease? p = some .available) (hg : Guid.isGuid id = true)
    (hp : s.store.timeoutPending = false) (timeout : Option UInt32) :
    ∃ reply, transport (.acquire p timeout .infinite id) s =
      (.ok reply, (transport (.acquire p timeout .infinite id) s).2) := by
  obtain ⟨f, hf, hl⟩ := Option.map_eq_some_iff.mp free
  have hne : ∀ x, f.lease = .leased x → x = id := by
    intro x hx
    rw [hl] at hx
    cases hx
  have hs : serve s.clock f (.acquire p timeout .infinite id) = .ok (_, _) :=
    serve_acquire_eq_ok.mpr ⟨rfl, hg, hne, rfl, rfl⟩
  have ht : transport (.acquire p timeout .infinite id) s = (.ok _, _) :=
    transport_eq_ok.mpr ⟨hp, f, _, hf, hs, rfl⟩
  exact ⟨_, by rw [ht]⟩

theorem release_granted {s : Service} {p : SharePath} {id : String}
    (held : s.lease? p = some (.leased id)) (hg : Guid.isGuid id = true)
    (hp : s.store.timeoutPending = false) (timeout : Option UInt32) :
    ∃ reply s', transport (.release p id timeout) s = (.ok reply, s') ∧
      s'.lease? p = some .available := by
  obtain ⟨f, hf, hl⟩ := Option.map_eq_some_iff.mp held
  have hs : serve s.clock f (.release p id timeout) =
      .ok (_, f.touched s.clock .available) := serve_release_eq_ok.mpr ⟨hg, hl, rfl, rfl⟩
  refine ⟨_, _, transport_eq_ok.mpr ⟨hp, f, _, hf, hs, rfl⟩, ?_⟩
  simp [lease?, Call.path, FileState.touched]

/-- How a deed bears on one file: `after` is the file after the deed. -/
inductive Bearing (s : Service) (p : SharePath) : Deed → (after : Option FileState) → Prop
  | same {d : Deed} : Bearing s p d (s.store.files p)
  | created (absent : s.store.files p = none) :
      Bearing s p (.command (.create p)) (some (.created s.clock))
  | deleted : Bearing s p (.command (.delete p)) none
  | served {c : Call} {f f' : FileState} {answer : c.Answer} (here : c.path = p)
      (found : s.store.files p = some f) (granted : serve s.clock f c = .ok (answer, f')) :
      Bearing s p (.call c) (some f')

private theorem bearing_call (s : Service) (c : Call) (p : SharePath) :
    Bearing s p (.call c) ((s.step (.call c)).store.files p) := by
  rcases h : transport c s with ⟨result, s'⟩
  simp only [step, h]
  cases result with
  | error e =>
    rw [transport_error_files h]
    exact .same
  | ok answer =>
    obtain ⟨-, f, f', hf, hs, rfl⟩ := transport_eq_ok.mp h
    by_cases hp : c.path = p
    · subst hp
      rw [put_files_self]
      exact .served rfl hf hs
    · rw [put_files_of_ne _ (Ne.symm hp)]
      exact .same

theorem bearing_step (s : Service) (d : Deed) (p : SharePath) :
    Bearing s p d ((s.step d).store.files p) := by
  cases d with
  | call c => exact bearing_call s c p
  | command c =>
    cases c with
    | clock now => exact .same
    | create q =>
      simp only [step, obey, Store.create]
      split
      · exact .same
      · rename_i absent
        by_cases hp : p = q
        · subst hp
          rw [put_files_self]
          exact .created (by simpa using absent)
        · rw [put_files_of_ne _ hp]
          exact .same
    | delete q =>
      simp only [step, obey, Store.delete]
      by_cases hp : p = q
      · subst hp
        rw [put_files_self]
        exact .deleted
      · rw [put_files_of_ne _ hp]
        exact .same
    | lookAt q => exact .same
    | failNext => exact .same

end Service
end FileLease
