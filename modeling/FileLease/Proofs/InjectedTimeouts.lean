import FileLease.Proofs.ServiceRuns

/-!
# Calls that fail, and those made to time out

A call that fails leaves all files as they are. It fails for a timeout exactly if one was asked for
since the call before it; whatever else is done to the service in between is no matter.
-/
namespace FileLease.Service

def CallFree (deeds : List Deed) : Prop :=
  ∀ c, .call c ∉ deeds

def AsksTimeout (deeds : List Deed) : Prop :=
  ∃ before after, deeds = before ++ .command .failNext :: after ∧ CallFree after

/-- A timeout has been asked for, among the deeds or before them, and no call has been made
since. -/
def Awaits (s : Service) (deeds : List Deed) : Prop :=
  AsksTimeout deeds ∨ s.store.timeoutPending = true ∧ CallFree deeds

/-- No refusal by the rules of leases is a timeout. -/
theorem serve_ne_timeout (now : Instant) (f : FileState) (c : Call) :
    serve now f c ≠ .error .timeout := by
  intro h
  cases c with
  | acquire p timeout duration id =>
    obtain ⟨-, he⟩ | ⟨-, ⟨-, he⟩ | ⟨-, -, he⟩⟩ := serve_acquire_eq_error.mp h <;> cases he
  | release p id timeout =>
    obtain ⟨-, he⟩ | ⟨-, ⟨-, he⟩ | ⟨-, he⟩⟩ := serve_release_eq_error.mp h <;> cases he
  | change p id proposed timeout =>
    obtain ⟨-, he⟩ | ⟨-, ⟨-, he⟩ | ⟨-, ⟨-, he⟩ | ⟨-, he⟩⟩⟩ := serve_change_eq_error.mp h <;>
      cases he
  | «break» p timeout => exact serve_break_ne_error h

theorem times_out_iff (s : Service) (c : Call) :
    (transport c s).1 = .error .timeout ↔ s.store.timeoutPending = true := by
  rcases h : transport c s with ⟨result, s'⟩
  constructor
  · rintro rfl
    obtain ⟨pending, -⟩ | ⟨-, -, ⟨-, he⟩ | ⟨f, -, hs⟩⟩ := transport_eq_error.mp h
    · exact pending
    · cases he
    · exact absurd hs (serve_ne_timeout s.clock f c)
  · intro pending
    have timeout := (transport_eq_error (c := c)).mpr (.inl ⟨pending, rfl, rfl⟩)
    exact congrArg Prod.fst (h.symm.trans timeout)

theorem pending_command (s : Service) (c : Command) :
    (s.step (.command c)).store.timeoutPending = true ↔
      c = .failNext ∨ s.store.timeoutPending = true := by
  cases c with
  | clock now => simp [step, obey]
  | create p =>
    simp only [step, obey, Store.create]
    split <;> simp [Store.put]
  | delete p => simp [step, obey, Store.delete, Store.put]
  | lookAt p => simp [step, obey]
  | failNext => simp [step, obey, Store.failNext]

/-- A call leaves no timeout pending, whether or not it is granted. -/
theorem pending_call (s : Service) (c : Call) :
    (s.step (.call c)).store.timeoutPending = false := by
  rcases h : transport c s with ⟨result, s'⟩
  simp only [step, h]
  cases result with
  | error e =>
    obtain ⟨-, -, rfl⟩ | ⟨idle, rfl, -⟩ := transport_eq_error.mp h
    · rfl
    · exact idle
  | ok answer =>
    obtain ⟨idle, f, f', -, -, rfl⟩ := transport_eq_ok.mp h
    exact idle

theorem callFree_cons (d : Deed) (deeds : List Deed) :
    CallFree (d :: deeds) ↔ (∀ c, d ≠ .call c) ∧ CallFree deeds := by
  simp [CallFree, forall_and, @eq_comm _ _ d]

theorem asksTimeout_cons (d : Deed) (deeds : List Deed) :
    AsksTimeout (d :: deeds) ↔ (d = .command .failNext ∧ CallFree deeds) ∨ AsksTimeout deeds := by
  constructor
  · rintro ⟨before, after, split, free⟩
    cases before with
    | nil =>
      obtain ⟨rfl, rfl⟩ := List.cons.inj split
      exact .inl ⟨rfl, free⟩
    | cons first before =>
      obtain ⟨-, rfl⟩ := List.cons.inj split
      exact .inr ⟨before, after, rfl, free⟩
  · rintro (⟨rfl, free⟩ | ⟨before, after, rfl, free⟩)
    · exact ⟨[], deeds, rfl, free⟩
    · exact ⟨d :: before, after, rfl, free⟩

/-- What is awaited after a run is awaited after the rest of it. -/
theorem awaits_cons (s : Service) (d : Deed) (deeds : List Deed) :
    s.Awaits (d :: deeds) ↔ (s.step d).Awaits deeds := by
  rw [Awaits, Awaits, asksTimeout_cons, callFree_cons]
  cases d with
  | command c =>
    rw [pending_command]
    have name : Deed.command c = .command .failNext ↔ c = .failNext := by simp
    have other : ∀ c', Deed.command c ≠ .call c' := nofun
    rw [name, and_iff_right other, or_and_right, or_assoc, or_left_comm]
  | call c => simp [pending_call]

theorem pending_run_iff (s : Service) (deeds : List Deed) :
    (s.run deeds).store.timeoutPending = true ↔ s.Awaits deeds := by
  induction deeds generalizing s with
  | nil => simp [Awaits, AsksTimeout, CallFree]
  | cons d deeds ih => rw [run_cons, ih, awaits_cons]

/-- A call that fails changes no file, and nothing at all unless it is made to time out. Over any
run a call times out exactly if a timeout was asked for since the last call before it. -/
theorem failures_and_timeouts (s : Service) :
    (∀ c e s', transport c s = (.error e, s') →
      s'.store.files = s.store.files ∧ (e ≠ .timeout → s' = s)) ∧
    ∀ before c, (transport c (s.run before)).1 = .error .timeout ↔ s.Awaits before := by
  constructor
  · intro c e s' failed
    refine ⟨transport_error_files failed, fun he => ?_⟩
    obtain ⟨-, timeout, -⟩ | ⟨-, same, -⟩ := transport_eq_error.mp failed
    · exact absurd timeout he
    · exact same
  · intro before c
    rw [times_out_iff, pending_run_iff]

/-- A timeout is asked for twice, and the file is deleted: one call times out, and the next one
finds no file. -/
theorem failures_and_timeouts_of_deleted :
    let f : SharePath := ⟨"share", "f"⟩
    let s := start .epoch
    let before : List Deed :=
      [.command (.create f), .command .failNext, .command .failNext, .command (.lookAt f),
        .command (.delete f)]
    let call : Call := .break f none
    s.Awaits before ∧ (transport call (s.run before)).1 = .error .timeout ∧
      ¬ s.Awaits (before ++ [.call call]) ∧
      (transport call (s.run (before ++ [.call call]))).1 = .error notFound ∧
      (s.run (before ++ [.call call, .call call])).store.files = (s.run before).store.files := by
  intro f s before call
  have first : (transport call (s.run before)).1 = .error .timeout := rfl
  have second : (transport call (s.run (before ++ [.call call]))).1 = .error notFound := rfl
  have awaits := ((failures_and_timeouts s).2 before call).mp first
  have spent : ¬ s.Awaits (before ++ [.call call]) := fun again =>
    nomatch second.symm.trans (((failures_and_timeouts s).2 _ call).mpr again)
  have still := ((failures_and_timeouts (s.run before)).1 call .timeout _ rfl).1
  have still' := ((failures_and_timeouts (s.run (before ++ [.call call]))).1 call notFound _ rfl).1
  exact ⟨awaits, first, spent, second, still'.trans still⟩

end FileLease.Service
