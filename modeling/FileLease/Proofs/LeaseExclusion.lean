import FileLease.Proofs.ServiceRuns

/-!
# Mutual exclusion of the service in memory

A lease stays with its id until the file is deleted, the lease is broken, or a release or a change
presents the id. Until then everybody else who asks for it is refused.
-/
namespace FileLease.Service

/-- The deeds that can take the lease of `p` away from `id`. -/
def Deed.Ends (p : SharePath) (id : String) : Deed → Prop
  | .command (.delete q) => q = p
  | .command _ => False
  | .call (.acquire ..) => False
  | .call (.release q presented _) => q = p ∧ presented = id
  | .call (.change q presented _ _) => q = p ∧ presented = id
  | .call (.break q _) => q = p

def LeasedIdsAreGuids (s : Service) : Prop :=
  ∀ p id, s.lease? p = some (.leased id) → Guid.isGuid id = true

theorem leasedIdsAreGuids_start (now : Instant) : (start now).LeasedIdsAreGuids := by
  intro p id h
  cases h

theorem LeasedIdsAreGuids.step {s : Service} (h : s.LeasedIdsAreGuids) (d : Deed) :
    (s.step d).LeasedIdsAreGuids := by
  intro p id hl
  have hb := bearing_step s d p
  rw [lease?] at hl
  generalize (s.step d).store.files p = after at hb hl
  cases hb with
  | same => exact h p id hl
  | created absent => cases hl
  | deleted => cases hl
  | served here found granted => exact serve_leased_isGuid granted (Option.some.inj hl)

theorem LeasedIdsAreGuids.run {s : Service} (h : s.LeasedIdsAreGuids) (deeds : List Deed) :
    (s.run deeds).LeasedIdsAreGuids := by
  induction deeds generalizing s with
  | nil => exact h
  | cons d deeds ih => exact ih (h.step d)

theorem Reachable.leasedIdsAreGuids {s : Service} (hs : s.Reachable) : s.LeasedIdsAreGuids := by
  obtain ⟨now, deeds, rfl⟩ := hs
  exact (leasedIdsAreGuids_start now).run deeds

theorem serve_keeps_lease {now : Instant} {f f' : FileState} {c : Call} {answer : c.Answer}
    {id : String} (h : serve now f c = .ok (answer, f')) (hl : f.lease = .leased id)
    (quiet : ¬ (Deed.call c).Ends c.path id) : f'.lease = .leased id := by
  cases c with
  | acquire p timeout duration proposed =>
    obtain ⟨-, -, hx, rfl, -⟩ := serve_acquire_eq_ok.mp h
    rw [hx id hl]
    rfl
  | release p x timeout =>
    obtain ⟨-, hx, -⟩ := serve_release_eq_ok.mp h
    cases hl.symm.trans hx
    exact absurd ⟨rfl, rfl⟩ quiet
  | change p x proposed timeout =>
    obtain ⟨-, -, hx | hx, rfl, -⟩ := serve_change_eq_ok.mp h
    · cases hl.symm.trans hx
      exact absurd ⟨rfl, rfl⟩ quiet
    · -- the proposed id may be the one that holds the lease already
      exact hl.symm.trans hx ▸ rfl
  | «break» p timeout => exact absurd rfl quiet

theorem lease?_step {s : Service} {p : SharePath} {id : String} {d : Deed}
    (held : s.lease? p = some (.leased id)) (quiet : ¬ d.Ends p id) :
    (s.step d).lease? p = some (.leased id) := by
  have hb := bearing_step s d p
  rw [lease?]
  generalize (s.step d).store.files p = after at hb
  cases hb with
  | same => exact held
  | created absent =>
    rw [lease?, absent] at held
    cases held
  | deleted => exact absurd rfl quiet
  | served here found granted =>
    subst here
    rw [lease?, found] at held
    exact congrArg some (serve_keeps_lease granted (Option.some.inj held) quiet)

theorem lease?_run {s : Service} {p : SharePath} {id : String}
    (held : s.lease? p = some (.leased id)) {deeds : List Deed}
    (quiet : ∀ d ∈ deeds, ¬ d.Ends p id) : (s.run deeds).lease? p = some (.leased id) := by
  induction deeds generalizing s with
  | nil => exact held
  | cons d deeds ih =>
    have hd := lease?_step held (quiet d List.mem_cons_self)
    exact ih hd fun x hx => quiet x (List.mem_cons_of_mem d hx)

theorem lease?_before {s : Service} {p : SharePath} {id : String}
    (held : s.lease? p = some (.leased id)) {before after : List Deed}
    (quiet : ∀ d ∈ before ++ after, ¬ d.Ends p id) :
    (s.run before).lease? p = some (.leased id) :=
  lease?_run held fun d hd => quiet d (List.mem_append_left after hd)

theorem acquire_refused {s : Service} {p : SharePath} {a b : String}
    (held : s.lease? p = some (.leased a)) (hb : b ≠ a) (timeout : Option UInt32)
    (duration : LeaseDuration) :
    ∃ e, (transport (.acquire p timeout duration b) s).1 = .error e := by
  rcases h : transport (.acquire p timeout duration b) s with ⟨result, s'⟩
  cases result with
  | error e => exact ⟨e, rfl⟩
  | ok reply =>
    obtain ⟨-, f, f', hf, hs, -⟩ := transport_eq_ok.mp h
    obtain ⟨-, -, hx, -⟩ := serve_acquire_eq_ok.mp hs
    have hl : f.lease = .leased a := by
      rw [lease?, show s.store.files p = some f from hf] at held
      exact Option.some.inj held
    exact absurd (hx a hl).symm hb

/-- In every state that is reached leases are under GUIDs, and a run that does nothing to end the
lease of `a` leaves it to `a` and refuses it to all others. -/
theorem mutual_exclusion {s : Service} (hs : s.Reachable) :
    (∀ p id, s.lease? p = some (.leased id) → Guid.isGuid id = true) ∧
      ∀ p a, s.lease? p = some (.leased a) → ∀ deeds : List Deed,
        (∀ d ∈ deeds, ¬ d.Ends p a) →
        (s.run deeds).lease? p = some (.leased a) ∧
          ∀ before timeout duration b after,
            deeds = before ++ .call (.acquire p timeout duration b) :: after → b ≠ a →
            ∃ e, (transport (.acquire p timeout duration b) (s.run before)).1 = .error e := by
  refine ⟨hs.leasedIdsAreGuids, ?_⟩
  intro p a held deeds quiet
  refine ⟨lease?_run held quiet, ?_⟩
  rintro before timeout duration b after rfl hb
  exact acquire_refused (lease?_before held quiet) hb timeout duration

/-- Another client asks for the lease, and then for its change to the id that holds it. -/
theorem mutual_exclusion_of_rivals :
    let p : SharePath := ⟨"share", "f"⟩
    let a := "aaaaaaaa-aaaa-4aaa-8aaa-aaaaaaaaaaaa"
    let b := "bbbbbbbb-bbbb-4bbb-8bbb-bbbbbbbbbbbb"
    let s := (start .epoch).run [.command (.create p), .call (.acquire p none .infinite a)]
    let deeds : List Deed :=
      [.call (.acquire p none .infinite b), .command .failNext, .call (.change p b a none)]
    s.Reachable ∧ s.lease? p = some (.leased a) ∧ (∀ d ∈ deeds, ¬ d.Ends p a) ∧
      (s.run deeds).lease? p = some (.leased a) ∧
      ∃ e, (transport (.acquire p none .infinite b) s).1 = .error e := by
  intro p a b s deeds
  have hs : s.Reachable := ⟨.epoch, _, rfl⟩
  have held : s.lease? p = some (.leased a) := by decide
  have quiet : ∀ d ∈ deeds, ¬ d.Ends p a := by simp [deeds, Deed.Ends, a, b]
  obtain ⟨stays, refused⟩ := (mutual_exclusion hs).2 p a held deeds quiet
  exact ⟨hs, held, quiet, stays, refused [] none .infinite b _ rfl (by decide)⟩

end FileLease.Service
