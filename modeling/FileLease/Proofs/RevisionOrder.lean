import FileLease.Proofs.HandleTurns
import FileLease.Proofs.NumeralWidths
import FileLease.Proofs.ServiceRuns

/-!
# The order of revisions

Every change of a lease gives the file a tag that comes after all tags before it and a date that is
later by a second at least, whatever the clock does. Nothing else touches tag or date.
-/
namespace FileLease
open Text

/-- Of two whole seconds the later one is that of the greater number. -/
theorem Instant.latest_whole (a b : Int) : latest ⟨a, 0⟩ ⟨b, 0⟩ = ⟨max a b, 0⟩ := by
  have h : isLE ⟨a, 0⟩ ⟨b, 0⟩ = true ↔ a ≤ b := by
    simp [isLE, Int.le_iff_lt_or_eq]
  simp only [latest, h, Int.max_def]
  split <;> rfl

namespace FileState

variable {f g : FileState} {now : Instant} {lease : LeaseState}

theorem etag_chars (f : FileState) :
    f.etag.toList = ['\x22', '0', 'x'] ++ hexUpper 16 f.revision.toNat ++ ['\x22'] := by
  simp [etag, String.toList_ofList]

theorem plain_etag (f : FileState) : Plain f.etag.toList := by
  rw [etag_chars]
  simp [plain_hexUpper]

/-- Tags are compared byte by byte, and the later revision has the greater tag. -/
theorem etag_lt (h : f.revision.toNat < g.revision.toNat) : bytesOf f.etag < bytesOf g.etag := by
  have fits : ∀ f : FileState, f.revision.toNat < Nat.pow 16 16 := fun f => f.revision.toNat_lt
  have digits := hexUpper_lt (by decide) h (fits g)
  rw [bytesOf_plain f.plain_etag, bytesOf_plain g.plain_etag, etag_chars, etag_chars]
  simp only [List.map_append]
  refine append_lt_append (List.append_left_lt digits) ?_ _ _
  simp only [List.length_append, List.length_map, hexUpper_length (by decide : 0 < 16) (fits f),
    hexUpper_length (by decide : 0 < 16) (fits g)]

/-- `g` comes after `f` by a number of changes; both dates are whole seconds. -/
structure Follows (f g : FileState) (changes : Nat) : Prop where
  revision : g.revision.toNat = f.revision.toNat + changes
  whole : f.lastModified.nanos = 0 ∧ g.lastModified.nanos = 0
  seconds : f.lastModified.seconds + changes ≤ g.lastModified.seconds

theorem created_revision (now : Instant) : (created now).revision.toNat = 1 :=
  rfl

theorem Follows.refl (h : f.lastModified.nanos = 0) : f.Follows f 0 :=
  ⟨rfl, ⟨h, h⟩, by simp⟩

theorem Follows.trans {f g k : FileState} {m n : Nat} (h : f.Follows g m) (h' : g.Follows k n) :
    f.Follows k (m + n) := by
  refine ⟨by rw [h'.revision, h.revision, Nat.add_assoc], ⟨h.whole.1, h'.whole.2⟩, ?_⟩
  have := h.seconds
  have := h'.seconds
  push_cast
  omega

theorem touched_lastModified (whole : f.lastModified.nanos = 0) :
    (f.touched now lease).lastModified = ⟨max now.seconds (f.lastModified.seconds + 1), 0⟩ := by
  have next : f.lastModified.addSeconds 1 = ⟨f.lastModified.seconds + 1, 0⟩ := by
    rw [Instant.addSeconds, whole]
  rw [touched, next]
  exact Instant.latest_whole now.seconds (f.lastModified.seconds + 1)

theorem follows_touched (whole : f.lastModified.nanos = 0)
    (room : f.revision.toNat + 1 < UInt64.size) : f.Follows (f.touched now lease) 1 := by
  have date := @touched_lastModified f now lease whole
  refine ⟨?_, ⟨whole, by rw [date]⟩, ?_⟩
  · show (f.revision + 1).toNat = f.revision.toNat + 1
    rw [UInt64.toNat_add]
    exact Nat.mod_eq_of_lt room
  · rw [date]
    exact Int.le_max_right now.seconds (f.lastModified.seconds + 1)

end FileState

namespace Service

variable {s : Service} {p : SharePath} {now : Instant} {f f' : FileState} {d : Deed}

/-- Whether a granted call changes the lease of the file that it names: a break does so only if
there is a lease. -/
def changesLease (lease : LeaseState) : Call → Bool
  | .acquire .. | .release .. | .change .. => true
  | .break .. =>
    match lease with
    | .leased _ => true
    | .available | .broken => false

def mutates (s : Service) (p : SharePath) : Deed → Bool
  | .command _ => false
  | .call c => c.path = p && (transport c s).1.isOk && (s.lease? p).any (changesLease · c)

def mutations (s : Service) (p : SharePath) : List Deed → Nat
  | [] => 0
  | d :: deeds => (if s.mutates p d then 1 else 0) + (s.step d).mutations p deeds

theorem mutations_append (s : Service) (p : SharePath) (deeds more : List Deed) :
    s.mutations p (deeds ++ more) = s.mutations p deeds + (s.run deeds).mutations p more := by
  induction deeds generalizing s with
  | nil => simp [mutations]
  | cons d deeds ih => rw [List.cons_append, mutations, ih, mutations, run_cons, Nat.add_assoc]

/-- A granted call that changes the lease gives the file a new revision, and any other leaves the
file alone; its reply is about the file as it is then. -/
theorem serve_revision {c : Call} {answer : c.Answer} (h : serve now f c = .ok (answer, f')) :
    (if changesLease f.lease c then ∃ lease, f' = f.touched now lease else f' = f) ∧
      ∀ reply, c.reply? answer = some reply →
        reply.etag = f'.etag ∧ reply.lastModified = f'.lastModified := by
  cases c with
  | acquire q timeout duration id =>
    obtain ⟨-, -, -, rfl, rfl⟩ := serve_acquire_eq_ok.mp h
    exact ⟨⟨_, rfl⟩, by rintro _ ⟨⟩; exact ⟨rfl, rfl⟩⟩
  | release q id timeout =>
    obtain ⟨-, -, rfl, rfl⟩ := serve_release_eq_ok.mp h
    exact ⟨⟨_, rfl⟩, by rintro _ ⟨⟩; exact ⟨rfl, rfl⟩⟩
  | change q id proposed timeout =>
    obtain ⟨-, -, -, rfl, rfl⟩ := serve_change_eq_ok.mp h
    exact ⟨⟨_, rfl⟩, by rintro _ ⟨⟩; exact ⟨rfl, rfl⟩⟩
  | «break» q timeout =>
    obtain ⟨-, rfl⟩ := serve_break_eq_ok.mp h
    refine ⟨?_, by rintro _ ⟨⟩⟩
    cases hl : f.lease with
    | available => simp [changesLease]
    | leased x => exact ⟨_, rfl⟩
    | broken => simp [changesLease]

/-- A call that is granted, about the file at `p`. -/
theorem mutates_call {c : Call} {answer : c.Answer} {s' : Service}
    (ht : transport c s = (.ok answer, s')) (here : c.path = p)
    (found : s.store.files p = some f) :
    s.mutates p (.call c) = changesLease f.lease c := by
  simp [mutates, ht, here, lease?, found, Except.isOk, Except.toBool]

theorem files_call (found : s.store.files p = some f) (c : Call) :
    ∃ f', (s.step (.call c)).store.files p = some f' ∧
      (if s.mutates p (.call c) then ∃ lease, f' = f.touched s.clock lease else f' = f) ∧
      ∀ answer reply, c.path = p → (transport c s).1 = .ok answer → c.reply? answer = some reply →
        reply.etag = f'.etag ∧ reply.lastModified = f'.lastModified := by
  rcases ht : transport c s with ⟨result, s'⟩
  simp only [step, ht]
  cases result with
  | error e =>
    have still : s.mutates p (.call c) = false := by simp [mutates, ht, Except.isOk, Except.toBool]
    refine ⟨f, by rw [transport_error_files ht, found], by simp [still], ?_⟩
    rintro answer reply - ⟨⟩
  | ok answer =>
    obtain ⟨-, g, g', hg, hs, rfl⟩ := transport_eq_ok.mp ht
    by_cases here : c.path = p
    · subst here
      cases found.symm.trans hg
      obtain ⟨changed, told⟩ := serve_revision hs
      refine ⟨g', put_files_self _ _ _, ?_, ?_⟩
      · rw [mutates_call ht rfl found]
        exact changed
      · rintro answer reply - ⟨⟩
        exact told reply
    · have still : s.mutates p (.call c) = false := by simp [mutates, here]
      refine ⟨f, by rw [put_files_of_ne _ (Ne.symm here), found], by simp [still], ?_⟩
      exact fun answer reply h => absurd h here

theorem files_command (found : s.store.files p = some f) {c : Command} (kept : c ≠ .delete p) :
    (s.step (.command c)).store.files p = some f := by
  have hb := bearing_step s (.command c) p
  generalize (s.step (.command c)).store.files p = after at hb
  cases hb with
  | same => exact found
  | created absent =>
    rw [found] at absent
    cases absent
  | deleted => exact absurd rfl kept

/-- What a deed does to the revision of a file that is there before and after it. -/
theorem files_step (found : s.store.files p = some f) (kept : d ≠ .command (.delete p)) :
    ∃ f', (s.step d).store.files p = some f' ∧
      (if s.mutates p d then ∃ lease, f' = f.touched s.clock lease else f' = f) ∧
      ∀ c answer reply, d = .call c → c.path = p → (transport c s).1 = .ok answer →
        c.reply? answer = some reply →
        reply.etag = f'.etag ∧ reply.lastModified = f'.lastModified := by
  cases d with
  | command c =>
    refine ⟨f, files_command found fun h => kept (congrArg _ h), by simp [mutates], ?_⟩
    rintro _ _ _ ⟨⟩
  | call c =>
    obtain ⟨f', hf', changed, told⟩ := files_call found c
    refine ⟨f', hf', changed, ?_⟩
    rintro _ answer reply ⟨⟩
    exact told answer reply

/-- Over a run that does not delete the file its revision goes up by the number of changes. -/
theorem files_run (found : s.store.files p = some f) (whole : f.lastModified.nanos = 0)
    {deeds : List Deed} (kept : .command (.delete p) ∉ deeds)
    (few : f.revision.toNat + s.mutations p deeds < UInt64.size) :
    ∃ f', (s.run deeds).store.files p = some f' ∧ f.Follows f' (s.mutations p deeds) := by
  induction deeds generalizing s f with
  | nil => exact ⟨f, found, .refl whole⟩
  | cons d deeds ih =>
    have kept' : d ≠ .command (.delete p) := fun h => kept (h ▸ List.mem_cons_self)
    have kept'' : .command (.delete p) ∉ deeds := fun h => kept (List.mem_cons_of_mem d h)
    obtain ⟨g, hg, changed, -⟩ := files_step found kept'
    rw [mutations] at few
    cases hm : s.mutates p d with
    | false =>
      rw [hm] at few changed
      obtain rfl : g = f := by simpa using changed
      obtain ⟨f', hf', follows⟩ := ih hg whole kept'' (by simpa using few)
      exact ⟨f', hf', by simpa [mutations, hm] using follows⟩
    | true =>
      rw [hm] at few changed
      obtain ⟨lease, rfl⟩ := by simpa using changed
      simp only [if_true] at few
      have first := @FileState.follows_touched f s.clock lease whole (by omega)
      obtain ⟨f', hf', follows⟩ := ih hg first.whole.2 kept'' (by rw [first.revision]; omega)
      exact ⟨f', hf', by simpa [mutations, hm] using first.trans follows⟩

theorem files_create (absent : s.store.files p = none) :
    (s.step (.command (.create p))).store.files p = some (.created s.clock) := by
  simp [step, obey, Store.create, absent]

/-- Whatever the clock does, between its creation and its deletion a file has tags in ascending
order, and dates that are seconds apart: each change of the lease gives it new ones, and all else
leaves both as they are. The reply to a granted call tells those of the file after it. -/
theorem revisions_advance (now : Instant) (before : List Deed) (p : SharePath)
    (new : ((start now).run before).store.files p = none) (life : List Deed)
    (kept : .command (.delete p) ∉ life)
    (few : (((start now).run before).step (.command (.create p))).mutations p life <
      UInt64.size - 1) :
    ∀ early late d rest, life = early ++ late ++ d :: rest →
      let s₁ := (((start now).run before).step (.command (.create p))).run early
      let s₂ := s₁.run late
      let s₃ := s₂.step d
      ∃ f₁ f₂ f₃, s₁.store.files p = some f₁ ∧ s₂.store.files p = some f₂ ∧
        s₃.store.files p = some f₃ ∧
        (s₂.mutates p d = true → bytesOf f₁.etag < bytesOf f₃.etag ∧
          f₁.lastModified.nanos = 0 ∧ f₃.lastModified.nanos = 0 ∧
          f₁.lastModified.seconds + 1 ≤ f₃.lastModified.seconds ∧
          s₂.clock.seconds ≤ f₃.lastModified.seconds) ∧
        (s₂.mutates p d = false → f₃.etag = f₂.etag ∧ f₃.lastModified = f₂.lastModified) ∧
        ∀ c answer reply, d = .call c → c.path = p → (transport c s₂).1 = .ok answer →
          c.reply? answer = some reply →
          reply.etag = f₃.etag ∧ reply.lastModified = f₃.lastModified := by
  rintro early late d rest rfl s₁ s₂ s₃
  have kept₁ : .command (.delete p) ∉ early := fun h => kept (by simp [h])
  have kept₂ : .command (.delete p) ∉ late := fun h => kept (by simp [h])
  have kept₃ : d ≠ .command (.delete p) := fun h => kept (by simp [h])
  rw [mutations_append, mutations_append, run_append, mutations] at few
  -- the revision counts the changes since the file was created, and there is room for them all
  obtain ⟨f₁, hf₁, follows₁⟩ := files_run (files_create new) rfl kept₁ (by
    rw [FileState.created_revision]
    omega)
  have revision := follows₁.revision
  rw [FileState.created_revision] at revision
  obtain ⟨f₂, hf₂, follows₂⟩ := files_run hf₁ follows₁.whole.2 kept₂ (by omega)
  obtain ⟨f₃, hf₃, changed, told⟩ := files_step hf₂ kept₃
  refine ⟨f₁, f₂, f₃, hf₁, hf₂, hf₃, ?_, ?_, told⟩
  · intro hm
    rw [hm] at changed
    obtain ⟨lease, rfl⟩ := by simpa using changed
    have room : f₂.revision.toNat + 1 < UInt64.size := by
      rw [follows₂.revision]
      rw [if_pos hm] at few
      omega
    have next := @FileState.follows_touched f₂ s₂.clock lease follows₂.whole.2 room
    have later := follows₂.trans next
    refine ⟨FileState.etag_lt ?_, later.whole.1, later.whole.2, ?_, ?_⟩
    · rw [later.revision]
      omega
    · refine Int.le_trans ?_ later.seconds
      omega
    · rw [FileState.touched_lastModified follows₂.whole.2]
      exact Int.le_max_left _ _
  · intro hm
    rw [hm] at changed
    obtain rfl : f₃ = f₂ := by simpa using changed
    exact ⟨rfl, rfl⟩

/-- The clock goes back by a day before the lease is changed. -/
theorem revisions_advance_under_clock :
    let p : SharePath := ⟨"share", "f"⟩
    let a := "aaaaaaaa-aaaa-4aaa-8aaa-aaaaaaaaaaaa"
    let b := "bbbbbbbb-bbbb-4bbb-8bbb-bbbbbbbbbbbb"
    let s := (start ⟨100000, 5⟩).step (.command (.create p))
    let early : List Deed := [.call (.acquire p none .infinite a), .command (.clock ⟨13600, 7⟩)]
    let s₁ := s.run early
    let change : Deed := .call (.change p a b none)
    let s₃ := s₁.step change
    (start ⟨100000, 5⟩).store.files p = none ∧
      s.mutations p (early ++ [change]) = 2 ∧
      ∃ f₁ f₃, s₁.store.files p = some f₁ ∧ s₃.store.files p = some f₃ ∧
        bytesOf f₁.etag < bytesOf f₃.etag ∧
        f₁.lastModified.seconds + 1 ≤ f₃.lastModified.seconds := by
  intro p a b s early s₁ change s₃
  have twice : s.mutations p (early ++ [change]) = 2 := by decide +kernel
  have few : s.mutations p (early ++ [change]) < UInt64.size - 1 := by
    rw [twice]
    decide
  have advance := revisions_advance ⟨100000, 5⟩ [] p rfl (early ++ [change]) (by decide) few early
    [] change [] (by simp)
  simp only [run_nil] at advance
  obtain ⟨f₁, f₂, f₃, hf₁, -, hf₃, changed, -⟩ := advance
  obtain ⟨lt, -, -, le, -⟩ := changed (by decide +kernel)
  exact ⟨rfl, twice, f₁, f₃, hf₁, hf₃, lt, le⟩

end Service
end FileLease
