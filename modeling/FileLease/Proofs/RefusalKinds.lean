import FileLease.Proofs.ScopeContract
import FileLease.Proofs.ServiceRuns

/-!
# What the kind of a refusal says about the service

The service checks the ids that an operation sends before it looks at the lease. The kind of failure
that the client is told says which of its checks has failed, and no failure is without a kind.
-/
namespace FileLease

namespace Operation

def sentIds (x : String) : Operation → List String
  | .acquire | .release => [x]
  | .change y => [x, y]
  | .break => []

def Malformed (x : String) (op : Operation) : Prop :=
  ∃ id ∈ op.sentIds x, Guid.isGuid id = false

def Conflicts (x : String) (lease : LeaseState) : Operation → Prop
  | .acquire => ∃ z, lease = .leased z ∧ z ≠ x
  | .release | .change _ | .break => False

def Unleased (lease : LeaseState) : Operation → Prop
  | .release | .change _ => lease = .available ∨ lease = .broken
  | .acquire | .break => False

def Mismatches (x : String) (lease : LeaseState) : Operation → Prop
  | .release => ∃ z, lease = .leased z ∧ z ≠ x
  | .change y => ∃ z, lease = .leased z ∧ z ≠ x ∧ z ≠ y
  | .acquire | .break => False

/-- The lease that a granted operation leaves. -/
def leaves (x : String) (lease : LeaseState) : Operation → LeaseState
  | .acquire => .leased x
  | .release => .available
  | .change y => .leased y
  | .break =>
    match lease with
    | .leased _ => .broken
    | .available | .broken => lease

end Operation

/-- The kind of refusal that an operation of a handle with the id `x` meets at a file, if any. -/
inductive Verdict (x : String) (lease : LeaseState) (op : Operation) : Option RejectionKind → Prop
  | malformed (ids : op.Malformed x) : Verdict x lease op (some .badFormat)
  | conflict (ids : ¬ op.Malformed x) (held : op.Conflicts x lease) :
      Verdict x lease op (some .conflict)
  | unleased (ids : ¬ op.Malformed x) (free : op.Unleased lease) :
      Verdict x lease op (some .noActiveLease)
  | mismatch (ids : ¬ op.Malformed x) (held : op.Mismatches x lease) :
      Verdict x lease op (some .idMismatch)
  | granted (ids : ¬ op.Malformed x) (held : ¬ op.Conflicts x lease) (found : ¬ op.Unleased lease)
      (own : ¬ op.Mismatches x lease) : Verdict x lease op none

def TransportError.kind? (e : TransportError) : Option RejectionKind :=
  (Failure.ofTransport e).rejectionKind?

namespace Service

@[simp] theorem kind_badId (header : String) : (badId header).kind? = some .badFormat := rfl

@[simp] theorem kind_alreadyPresent : alreadyPresent.kind? = some .conflict := rfl

@[simp] theorem kind_notPresent : notPresent.kind? = some .noActiveLease := rfl

@[simp] theorem kind_mismatch : mismatch.kind? = some .idMismatch := rfl

end Service

namespace Verdict

variable {x : String} {lease : LeaseState} {op : Operation} {k : Option RejectionKind}

theorem not_unleased_of_conflicts (h : op.Conflicts x lease) : ¬ op.Unleased lease := by
  cases op with
  | acquire => exact id
  | release => exact h.elim
  | change y => exact h.elim
  | «break» => exact h.elim

theorem not_mismatches_of_conflicts (h : op.Conflicts x lease) : ¬ op.Mismatches x lease := by
  cases op with
  | acquire => exact id
  | release => exact h.elim
  | change y => exact h.elim
  | «break» => exact h.elim

theorem not_mismatches_of_unleased (h : op.Unleased lease) : ¬ op.Mismatches x lease := by
  cases op with
  | acquire => exact id
  | release =>
    rintro ⟨z, rfl, -⟩
    rcases h with h | h <;> cases h
  | change y =>
    rintro ⟨z, rfl, -⟩
    rcases h with h | h <;> cases h
  | «break» => exact id

theorem badFormat_iff (v : Verdict x lease op k) : k = some .badFormat ↔ op.Malformed x := by
  cases v with
  | malformed ids => exact iff_of_true rfl ids
  | conflict ids held => exact iff_of_false (by simp) ids
  | unleased ids free => exact iff_of_false (by simp) ids
  | mismatch ids held => exact iff_of_false (by simp) ids
  | granted ids held found own => exact iff_of_false (by simp) ids

theorem conflict_iff (v : Verdict x lease op k) (ids : ¬ op.Malformed x) :
    k = some .conflict ↔ op.Conflicts x lease := by
  cases v with
  | malformed bad => exact absurd bad ids
  | conflict _ held => exact iff_of_true rfl held
  | unleased _ free => exact iff_of_false (by simp) fun h => not_unleased_of_conflicts h free
  | mismatch _ held => exact iff_of_false (by simp) fun h => not_mismatches_of_conflicts h held
  | granted _ held found own => exact iff_of_false (by simp) held

theorem noActiveLease_iff (v : Verdict x lease op k) (ids : ¬ op.Malformed x) :
    k = some .noActiveLease ↔ op.Unleased lease := by
  cases v with
  | malformed bad => exact absurd bad ids
  | conflict _ held => exact iff_of_false (by simp) (not_unleased_of_conflicts held)
  | unleased _ free => exact iff_of_true rfl free
  | mismatch _ held => exact iff_of_false (by simp) fun h => not_mismatches_of_unleased h held
  | granted _ held found own => exact iff_of_false (by simp) found

theorem idMismatch_iff (v : Verdict x lease op k) (ids : ¬ op.Malformed x) :
    k = some .idMismatch ↔ op.Mismatches x lease := by
  cases v with
  | malformed bad => exact absurd bad ids
  | conflict _ held => exact iff_of_false (by simp) (not_mismatches_of_conflicts held)
  | unleased _ free => exact iff_of_false (by simp) (not_mismatches_of_unleased free)
  | mismatch _ held => exact iff_of_true rfl held
  | granted _ held found own => exact iff_of_false (by simp) own

theorem ne_notFound (v : Verdict x lease op k) : k ≠ some .notFound := by
  cases v <;> simp

theorem ne_other (v : Verdict x lease op k) : k ≠ some .other := by
  cases v <;> simp

theorem eq_none (v : Verdict x lease op k) (ids : ¬ op.Malformed x)
    (held : ¬ op.Conflicts x lease) (found : ¬ op.Unleased lease)
    (own : ¬ op.Mismatches x lease) : k = none := by
  cases v with
  | malformed bad => exact absurd bad ids
  | conflict _ h => exact absurd h held
  | unleased _ h => exact absurd h found
  | mismatch _ h => exact absurd h own
  | granted => rfl

end Verdict

namespace Service

/-- What a file does when it is asked for an operation is what its lease calls for. -/
def Fits (x : String) (f : FileState) (op : Operation) {α : Type} :
    Except TransportError (α × FileState) → Prop
  | .error e => ∃ k, e.kind? = some k ∧ Verdict x f.lease op (some k)
  | .ok (_, f') => Verdict x f.lease op none ∧ f'.lease = op.leaves x f.lease

theorem malformed_one {x : String} {op : Operation} (ho : op.sentIds x = [x]) :
    op.Malformed x ↔ Guid.isGuid x = false := by
  simp [Operation.Malformed, ho]

theorem malformed_change {x y : String} :
    (Operation.change y).Malformed x ↔ Guid.isGuid x = false ∨ Guid.isGuid y = false := by
  simp [Operation.Malformed, Operation.sentIds]

variable {now : Instant} {f : FileState} {h : Handle} {timeout : Option UInt32}

theorem fits_acquire :
    Fits h.id f .acquire (serve now f (.acquire h.path timeout .infinite h.id)) := by
  have ids : Operation.acquire.Malformed h.id ↔ Guid.isGuid h.id = false := malformed_one rfl
  rcases hs : serve now f (.acquire h.path timeout .infinite h.id) with e | ⟨reply, f'⟩
  · obtain ⟨hd, -⟩ | ⟨-, ⟨bad, rfl⟩ | ⟨good, held, rfl⟩⟩ := serve_acquire_eq_error.mp hs
    · exact absurd rfl hd
    · exact ⟨_, kind_badId _, .malformed (ids.mpr bad)⟩
    · exact ⟨_, kind_alreadyPresent, .conflict (by simp [ids, good]) held⟩
  · obtain ⟨-, good, own, rfl, -⟩ := serve_acquire_eq_ok.mp hs
    refine ⟨.granted (by simp [ids, good]) ?_ id id, rfl⟩
    rintro ⟨z, hz, hne⟩
    exact hne (own z hz)

theorem fits_release : Fits h.id f .release (serve now f (.release h.path h.id timeout)) := by
  have ids : Operation.release.Malformed h.id ↔ Guid.isGuid h.id = false := malformed_one rfl
  rcases hs : serve now f (.release h.path h.id timeout) with e | ⟨reply, f'⟩
  · obtain ⟨bad, rfl⟩ | ⟨good, ⟨free, rfl⟩ | ⟨held, rfl⟩⟩ := serve_release_eq_error.mp hs
    · exact ⟨_, kind_badId _, .malformed (ids.mpr bad)⟩
    · exact ⟨_, kind_notPresent, .unleased (by simp [ids, good]) free⟩
    · exact ⟨_, kind_mismatch, .mismatch (by simp [ids, good]) held⟩
  · obtain ⟨good, own, rfl, -⟩ := serve_release_eq_ok.mp hs
    refine ⟨.granted (by simp [ids, good]) id ?_ ?_, rfl⟩
    · simp [Operation.Unleased, own]
    · rintro ⟨z, hz, hne⟩
      cases own.symm.trans hz
      exact hne rfl

theorem fits_change (y : String) :
    Fits h.id f (.change y) (serve now f (.change h.path h.id y timeout)) := by
  have ids := @malformed_change h.id y
  rcases hs : serve now f (.change h.path h.id y timeout) with e | ⟨reply, f'⟩
  · obtain ⟨bad, rfl⟩ | ⟨good, ⟨bad, rfl⟩ | ⟨good', ⟨free, rfl⟩ | ⟨held, rfl⟩⟩⟩ :=
      serve_change_eq_error.mp hs
    · exact ⟨_, kind_badId _, .malformed (ids.mpr (.inl bad))⟩
    · exact ⟨_, kind_badId _, .malformed (ids.mpr (.inr bad))⟩
    · exact ⟨_, kind_notPresent, .unleased (by simp [ids, good, good']) free⟩
    · exact ⟨_, kind_mismatch, .mismatch (by simp [ids, good, good']) held⟩
  · obtain ⟨good, good', own, rfl, -⟩ := serve_change_eq_ok.mp hs
    refine ⟨.granted (by simp [ids, good, good']) id ?_ ?_, rfl⟩
    · rcases own with own | own <;> simp [Operation.Unleased, own]
    · rintro ⟨z, hz, hx, hy⟩
      rcases own with own | own
      · cases own.symm.trans hz
        exact hx rfl
      · cases own.symm.trans hz
        exact hy rfl

theorem fits_break : Fits h.id f .break (serve now f (.break h.path timeout)) := by
  rcases hs : serve now f (.break h.path timeout) with e | ⟨seconds, f'⟩
  · exact absurd hs serve_break_ne_error
  · obtain ⟨-, rfl⟩ := serve_break_eq_ok.mp hs
    refine ⟨.granted (by simp [Operation.Malformed, Operation.sentIds]) id id id, ?_⟩
    cases hl : f.lease <;> simp [Operation.leaves, FileState.touched, hl]

theorem fits_serve (op : Operation) : Fits h.id f op (serve now f (op.call h timeout)) := by
  cases op with
  | acquire => exact fits_acquire
  | release => exact fits_release
  | change y => exact fits_change y
  | «break» => exact fits_break

end Service

def kindOf {α : Type} : Except Failure α → Option RejectionKind
  | .error f => f.rejectionKind?
  | .ok _ => none

namespace Handle

variable {h : Handle} {op : Operation} {timeout : Option UInt32} {s : Service}

theorem perform_pending (hp : s.store.timeoutPending = true) :
    (h.perform Service.transport op timeout s).1 = .error (.transport .timeout) := by
  have ht : Service.transport (op.call h timeout) s = (.error .timeout, _) :=
    Service.transport_eq_error.mpr (.inl ⟨hp, rfl, rfl⟩)
  rw [perform_error op ht]
  rfl

theorem perform_missing (hp : s.store.timeoutPending = false)
    (hf : s.store.files (op.call h timeout).path = none) :
    (h.perform Service.transport op timeout s).1 = .error (.ofTransport Service.notFound) := by
  have ht : Service.transport (op.call h timeout) s = (.error Service.notFound, s) :=
    Service.transport_eq_error.mpr (.inr ⟨hp, rfl, .inl ⟨hf, rfl⟩⟩)
  rw [perform_error op ht]

theorem perform_found {lease : LeaseState} (hp : s.store.timeoutPending = false)
    (hl : s.lease? h.path = some lease) :
    let done := h.perform Service.transport op timeout s
    Verdict h.id lease op (kindOf done.1) ∧ (kindOf done.1 = none →
      (∃ seconds, done.1 = .ok seconds) ∧
        done.2.2.lease? h.path = some (op.leaves h.id lease)) := by
  obtain ⟨f, hf, rfl⟩ := Option.map_eq_some_iff.mp hl
  have hf' : s.store.files (op.call h timeout).path = some f := by rw [call_path, hf]
  have fits : Service.Fits h.id f op (Service.serve s.clock f (op.call h timeout)) :=
    Service.fits_serve op
  rcases hs : Service.serve s.clock f (op.call h timeout) with e | ⟨answer, f'⟩
  · have ht : Service.transport (op.call h timeout) s = (.error e, s) :=
      Service.transport_eq_error.mpr (.inr ⟨hp, rfl, .inr ⟨f, hf', hs⟩⟩)
    rw [hs] at fits
    obtain ⟨k, hk, verdict⟩ := fits
    have hk' : kindOf (.error (.ofTransport e) : Except Failure (Option UInt32)) = some k := hk
    simp only [perform_error op ht, hk']
    exact ⟨verdict, fun hn => by cases hn⟩
  · have ht := Service.transport_eq_ok.mpr ⟨hp, f, f', hf', hs, rfl⟩
    rw [hs] at fits
    obtain ⟨verdict, left⟩ := fits
    simp only [perform_ok op ht]
    refine ⟨verdict, fun _ => ⟨⟨_, rfl⟩, ?_⟩⟩
    simp [Service.lease?, left]

/-- The kind of failure that an operation meets tells the state of the service: whether it is to
time out, whether the file is there, whether the ids are GUIDs, and who holds the lease. What meets
none of these failures is granted. -/
theorem kinds_tell_state (h : Handle) (op : Operation) (timeout : Option UInt32) (s : Service) :
    let done := h.perform Service.transport op timeout s
    (done.1 = .error (.transport .timeout) ↔ s.store.timeoutPending = true) ∧
    kindOf done.1 ≠ some .other ∧
    (s.store.timeoutPending = false →
      (kindOf done.1 = some .notFound ↔ s.lease? h.path = none) ∧
      ∀ lease, s.lease? h.path = some lease →
        (kindOf done.1 = some .badFormat ↔ op.Malformed h.id) ∧
        (¬ op.Malformed h.id →
          (kindOf done.1 = some .conflict ↔ op.Conflicts h.id lease) ∧
          (kindOf done.1 = some .noActiveLease ↔ op.Unleased lease) ∧
          (kindOf done.1 = some .idMismatch ↔ op.Mismatches h.id lease) ∧
          (¬ op.Conflicts h.id lease → ¬ op.Unleased lease → ¬ op.Mismatches h.id lease →
            (∃ seconds, done.1 = .ok seconds) ∧
              done.2.2.lease? h.path = some (op.leaves h.id lease)))) := by
  intro done
  cases hp : s.store.timeoutPending with
  | true =>
    have hr : done.1 = .error (.transport .timeout) := perform_pending hp
    refine ⟨iff_of_true hr rfl, ?_, fun hn => by cases hn⟩
    rw [hr]
    simp [kindOf, Failure.rejectionKind?]
  | false =>
    cases hl : s.lease? h.path with
    | none =>
      have hf : s.store.files (op.call h timeout).path = none := by
        rw [call_path]
        exact Option.map_eq_none_iff.mp hl
      have hr : done.1 = .error (.ofTransport Service.notFound) := perform_missing hp hf
      have hk : kindOf done.1 = some .notFound := by rw [hr]; rfl
      refine ⟨?_, by simp [hk], fun _ => ⟨iff_of_true hk rfl, fun lease hn => by cases hn⟩⟩
      rw [hr]
      exact iff_of_false (by simp [Failure.ofTransport, Service.notFound, Service.refusal])
        (by simp)
    | some lease =>
      obtain ⟨verdict, granted⟩ := @perform_found h op timeout s lease hp hl
      have hne : done.1 ≠ .error (.transport .timeout) := by
        intro hr
        obtain ⟨⟨seconds, hok⟩, -⟩ := granted (show kindOf done.1 = none by rw [hr]; rfl)
        cases hr.symm.trans hok
      refine ⟨iff_of_false hne (by simp), verdict.ne_other, fun _ => ⟨?_, ?_⟩⟩
      · exact iff_of_false verdict.ne_notFound (by simp)
      rintro _ ⟨⟩
      refine ⟨verdict.badFormat_iff, fun ids => ⟨verdict.conflict_iff ids,
        verdict.noActiveLease_iff ids, verdict.idMismatch_iff ids, ?_⟩⟩
      intro held found own
      exact granted (verdict.eq_none ids held found own)

/-- A client that does not hold the lease can change it to the id that holds it, but not release
it. -/
theorem kinds_tell_state_of_rival :
    let a := "aaaaaaaa-aaaa-4aaa-8aaa-aaaaaaaaaaaa"
    let b := "bbbbbbbb-bbbb-4bbb-8bbb-bbbbbbbbbbbb"
    let p : SharePath := ⟨"share", "f"⟩
    let h : Handle := ⟨b, none, p⟩
    let s := (Service.start .epoch).run [.command (.create p), .call (.acquire p none .infinite a)]
    s.store.timeoutPending = false ∧ s.lease? p = some (.leased a) ∧
      kindOf (h.perform Service.transport .release none s).1 = some .idMismatch ∧
      (h.perform Service.transport (.change a) none s).2.2.lease? p = some (.leased a) := by
  intro a b p h s
  have pending : s.store.timeoutPending = false := by decide +kernel
  have held : s.lease? p = some (.leased a) := by decide +kernel
  refine ⟨pending, held, ?_, ?_⟩
  · have ids : ¬ Operation.release.Malformed h.id := by
      rw [Service.malformed_one rfl]
      decide +kernel
    obtain ⟨-, settled⟩ := ((kinds_tell_state h .release none s).2.2 pending).2 _ held
    exact (settled ids).2.2.1.mpr ⟨a, rfl, by decide⟩
  · have ids : ¬ (Operation.change a).Malformed h.id := by
      rw [Service.malformed_change]
      decide +kernel
    obtain ⟨-, settled⟩ := ((kinds_tell_state h (.change a) none s).2.2 pending).2 _ held
    refine ((settled ids).2.2.2 (fun rival => rival) ?_ ?_).2
    · rintro (hl | hl) <;> cases hl
    · rintro ⟨z, hz, -, hne⟩
      cases hz
      exact hne rfl

end Handle
end FileLease
