import FileLease.Proofs.RevisionOrder

/-!
# What an equal tag says

A handle keeps the tag that its last granted call told. As long as the file has this tag, nothing
happened to it since, unless it was deleted: a file that is made anew counts its revisions from the
start, and gets tags that another file had before it.
-/
namespace FileLease

namespace FileState

variable {f g : FileState}

/-- Files with the same tag have the same revision. -/
theorem revision_eq_of_etag (same : f.etag = g.etag) : f.revision.toNat = g.revision.toNat := by
  rcases Nat.lt_trichotomy f.revision.toNat g.revision.toNat with lt | eq | gt
  · have := etag_lt lt
    rw [same] at this
    exact absurd this (List.lt_irrefl _)
  · exact eq
  · have := etag_lt gt
    rw [same] at this
    exact absurd this (List.lt_irrefl _)

end FileState

namespace Service

variable {s : Service} {p : SharePath} {f : FileState} {d : Deed} {deeds : List Deed}

/-- Whether a deed makes the file at `p`, takes it away or changes its lease. -/
def alters (s : Service) (p : SharePath) : Deed → Bool
  | .command (.create q) => q = p && (s.store.files p).isNone
  | .command (.delete q) => q = p && (s.store.files p).isSome
  | .command _ => false
  | .call c => s.mutates p (.call c)

def Unaltered (s : Service) (p : SharePath) : List Deed → Prop
  | [] => True
  | d :: deeds => s.alters p d = false ∧ (s.step d).Unaltered p deeds

/-- A deed that does not change a file leaves all of it as it is. -/
theorem files_step_of_not_alters (still : s.alters p d = false) :
    (s.step d).store.files p = s.store.files p := by
  cases hf : s.store.files p with
  | none =>
    have hb := bearing_step s d p
    generalize (s.step d).store.files p = after at hb
    cases hb with
    | same => exact hf
    | created absent => simp [alters, absent] at still
    | deleted => rfl
    | served here found granted =>
      rw [hf] at found
      cases found
  | some f =>
    have kept : d ≠ .command (.delete p) := by
      rintro rfl
      simp [alters, hf] at still
    have lease : s.mutates p d = false := by
      cases d with
      | call c => exact still
      | command c => rfl
    obtain ⟨g, hg, changed, -⟩ := files_step hf kept
    rw [lease] at changed
    rw [hg]
    simpa using changed

/-- As long as a file is not deleted, it is changed by nothing but changes of its lease. -/
theorem unaltered_of_mutations_eq_zero (found : s.store.files p = some f)
    (kept : .command (.delete p) ∉ deeds) (none : s.mutations p deeds = 0) :
    s.Unaltered p deeds := by
  induction deeds generalizing s with
  | nil => exact trivial
  | cons d deeds ih =>
    rw [mutations, Nat.add_eq_zero_iff] at none
    have still : s.alters p d = false := by
      cases d with
      | call c => simpa [alters] using none.1
      | command c =>
        cases c with
        | create q => simp [alters, found]
        | delete q =>
          have : q ≠ p := by
            rintro rfl
            exact kept List.mem_cons_self
          simp [alters, this]
        | _ => rfl
    have found' : (s.step d).store.files p = some f := by
      rw [files_step_of_not_alters still, found]
    exact ⟨still, ih found' (fun h => kept (List.mem_cons_of_mem d h)) none.2⟩

/-- Where there is a file, a run that changes nothing about it does not delete it. -/
theorem not_deleted_of_unaltered (found : s.store.files p = some f)
    (still : s.Unaltered p deeds) : .command (.delete p) ∉ deeds := by
  induction deeds generalizing s with
  | nil => exact List.not_mem_nil
  | cons d deeds ih =>
    obtain ⟨first, rest⟩ := still
    have found' : (s.step d).store.files p = some f := by
      rw [files_step_of_not_alters first, found]
    intro deleted
    rcases List.mem_cons.mp deleted with rfl | deleted
    · simp [alters, found] at first
    · exact ih found' rest deleted

/-- If there is a file at `p`, its date is a whole second and its revision is not above that of a
new file by more than `n`. -/
def Numbered (s : Service) (p : SharePath) (n : Nat) : Prop :=
  ∀ f, s.store.files p = some f → f.lastModified.nanos = 0 ∧ f.revision.toNat ≤ 1 + n

theorem Numbered.step {n : Nat} (numbered : s.Numbered p n) (d : Deed)
    (few : n + (if s.mutates p d then 1 else 0) < UInt64.size - 1) :
    (s.step d).Numbered p (n + if s.mutates p d then 1 else 0) := by
  intro f' hf'
  cases hf : s.store.files p with
  | none =>
    have hb := bearing_step s d p
    rw [hf'] at hb
    generalize hafter : some f' = after at hb
    cases hb with
    | same =>
      rw [hf] at hafter
      cases hafter
    | created absent =>
      cases hafter
      exact ⟨rfl, by simp [FileState.created]⟩
    | deleted => cases hafter
    | served here found granted =>
      rw [hf] at found
      cases found
  | some f =>
    obtain ⟨whole, bound⟩ := numbered f hf
    have kept : d ≠ .command (.delete p) := by
      rintro rfl
      simp [Service.step, obey, Store.delete] at hf'
    obtain ⟨g, hg, changed, -⟩ := files_step hf kept
    cases hg.symm.trans hf'
    cases hm : s.mutates p d with
    | false =>
      rw [hm] at changed
      obtain rfl : f' = f := by simpa using changed
      exact ⟨whole, by simpa using bound⟩
    | true =>
      rw [hm] at changed few
      obtain ⟨lease, rfl⟩ := by simpa using changed
      simp only [if_true] at few ⊢
      have next := @FileState.follows_touched f s.clock lease whole (by omega)
      exact ⟨next.whole.2, by rw [next.revision]; omega⟩

/-- A file that is deleted and made anew starts again, so no revision is above the number of changes
by more than one. -/
theorem Numbered.run {n : Nat} (numbered : s.Numbered p n)
    (few : n + s.mutations p deeds < UInt64.size - 1) :
    (s.run deeds).Numbered p (n + s.mutations p deeds) := by
  induction deeds generalizing s n with
  | nil => exact numbered
  | cons d deeds ih =>
    rw [mutations, ← Nat.add_assoc] at few ⊢
    exact ih (numbered.step d (by omega)) few

theorem numbered_start (now : Instant) (p : SharePath) : (start now).Numbered p 0 := by
  intro f hf
  cases hf

/-- A run after which the file has its tag again has changed nothing about it, if it did not delete
it. -/
theorem unaltered_iff_of_same_tag {f' : FileState} (found : s.store.files p = some f)
    (whole : f.lastModified.nanos = 0) (few : f.revision.toNat + s.mutations p deeds < UInt64.size)
    (found' : (s.run deeds).store.files p = some f') (same : f.etag = f'.etag) :
    s.Unaltered p deeds ↔ .command (.delete p) ∉ deeds := by
  constructor
  · exact not_deleted_of_unaltered found
  · intro kept
    obtain ⟨g, hg, follows⟩ := files_run found whole kept few
    cases hg.symm.trans found'
    have revision := follows.revision
    rw [← FileState.revision_eq_of_etag same] at revision
    exact unaltered_of_mutations_eq_zero found kept (by omega)

end Service

structure Clients where
  handles : String → Option Handle
  service : Service

/-- What happens in a session: a name gets a new handle, a handle is asked for an operation, or
something is done past the handles. A scope is an acquire, the work within, and a release. -/
inductive Move
  | bind (name : String) (resource : Resource) (leaseId : Option String) (fresh : String)
  | perform (name : String) (ask : Ask)
  | deed (d : Service.Deed)

namespace Clients

def start (now : Instant) : Clients :=
  ⟨fun _ => none, .start now⟩

def put (x : Clients) (name : String) (h : Handle) : Clients :=
  { x with handles := fun n => if n = name then some h else x.handles n }

def after (x : Clients) : Move → Clients
  | .bind name resource leaseId fresh =>
    match Handle.bind resource leaseId fresh with
    | .ok h => x.put name h
    | .error _ => x
  | .perform name ask =>
    match x.handles name with
    | some h =>
      let (_, h, service) := h.perform Service.transport ask.op ask.timeout x.service
      { x with service }.put name h
    | none => x
  | .deed d => { x with service := x.service.step d }

def afterAll (x : Clients) (moves : List Move) : Clients :=
  moves.foldl after x

@[simp] theorem afterAll_cons (x : Clients) (m : Move) (moves : List Move) :
    x.afterAll (m :: moves) = (x.after m).afterAll moves := rfl

@[simp] theorem afterAll_append (x : Clients) (moves more : List Move) :
    x.afterAll (moves ++ more) = (x.afterAll moves).afterAll more := List.foldl_append

def deed? (x : Clients) : Move → Option Service.Deed
  | .bind .. => none
  | .perform name ask => (x.handles name).map fun h => .call (ask.call h)
  | .deed d => some d

def deeds (x : Clients) : List Move → List Service.Deed
  | [] => []
  | m :: moves => (x.deed? m).toList ++ (x.after m).deeds moves

theorem deeds_append (x : Clients) (moves more : List Move) :
    x.deeds (moves ++ more) = x.deeds moves ++ (x.afterAll moves).deeds more := by
  induction moves generalizing x with
  | nil => rfl
  | cons m moves ih => rw [List.cons_append, deeds, ih, deeds, List.append_assoc, afterAll_cons]

/-- A move that is an acquire, release or change by the handle of a name, and is granted. -/
def Grants (x : Clients) (name : String) (m : Move) : Prop :=
  ∃ ask h reply, m = .perform name ask ∧ x.handles name = some h ∧
    (h.turn Service.transport ask x.service).1.reply? = some reply

def Ungranted (x : Clients) (name : String) : List Move → Prop
  | [] => True
  | m :: moves => ¬ x.Grants name m ∧ (x.after m).Ungranted name moves

def tag? (x : Clients) (name : String) : Option String :=
  (x.handles name).bind fun h => h.revision.map (·.etag)

variable {x : Clients} {name : String} {m : Move} {moves : List Move}

@[simp] theorem put_handles_self (x : Clients) (name : String) (h : Handle) :
    (x.put name h).handles name = some h := by simp [put]

theorem put_handles_of_ne (x : Clients) {name other : String} (ne : name ≠ other) (h : Handle) :
    (x.put other h).handles name = x.handles name := by simp [put, ne]

theorem after_bind_ok {resource : Resource} {leaseId : Option String} {fresh : String} {h : Handle}
    (bound : Handle.bind resource leaseId fresh = .ok h) :
    x.after (.bind name resource leaseId fresh) = x.put name h := by
  simp only [after, bound]

theorem after_bind_error {resource : Resource} {leaseId : Option String} {fresh : String}
    {f : Failure} (failed : Handle.bind resource leaseId fresh = .error f) :
    x.after (.bind name resource leaseId fresh) = x := by
  simp only [after, failed]

theorem after_perform {h : Handle} {ask : Ask} (held : x.handles name = some h) :
    x.after (.perform name ask) =
      Clients.put { x with service := (Service.transport (ask.call h) x.service).2 } name
        (h.turn Service.transport ask x.service).1.after := by
  rcases ha : Service.transport (ask.call h) x.service with ⟨answer, s⟩
  cases answer with
  | error e =>
    rw [Handle.turn_error ha]
    simp only [after, held, Handle.perform_error ask.op ha]
  | ok answer =>
    rw [Handle.turn_ok ha]
    simp only [after, held, Handle.perform_ok ask.op ha]

theorem after_perform_none {ask : Ask} (free : x.handles name = none) :
    x.after (.perform name ask) = x := by
  simp only [after, free]

theorem after_service (x : Clients) (m : Move) :
    (x.after m).service = x.service.run (x.deed? m).toList := by
  cases m with
  | bind name resource leaseId fresh =>
    cases bound : Handle.bind resource leaseId fresh with
    | error f =>
      rw [after_bind_error bound]
      rfl
    | ok h =>
      rw [after_bind_ok bound]
      rfl
  | perform name ask =>
    cases held : x.handles name with
    | none =>
      rw [after_perform_none held]
      simp [deed?, held]
    | some h =>
      rw [after_perform held]
      simp [deed?, held, put, Service.step]
  | deed d => rfl

theorem afterAll_service (x : Clients) (moves : List Move) :
    (x.afterAll moves).service = x.service.run (x.deeds moves) := by
  induction moves generalizing x with
  | nil => rfl
  | cons m moves ih => rw [afterAll_cons, ih, after_service, deeds, Service.run_append]

theorem run_deeds (now : Instant) (moves : List Move) :
    (Service.start now).run ((start now).deeds moves) = ((start now).afterAll moves).service :=
  ((start now).afterAll_service moves).symm

theorem numbered_afterAll (now : Instant) (moves : List Move) (p : SharePath)
    (few : (Service.start now).mutations p ((start now).deeds moves) < UInt64.size - 1) :
    ((start now).afterAll moves).service.Numbered p
      ((Service.start now).mutations p ((start now).deeds moves)) := by
  rw [← Nat.zero_add (Service.mutations _ _ _)] at few ⊢
  rw [← run_deeds]
  exact (Service.numbered_start now p).run few

theorem bind_revision {resource : Resource} {leaseId : Option String} {fresh : String} {h : Handle}
    (bound : Handle.bind resource leaseId fresh = .ok h) : h.revision = none := by
  unfold Handle.bind at bound
  split at bound
  · cases bound
  · split at bound
    · cases bound
      rfl
    · split at bound
      · cases bound
      · cases bound
        rfl

/-- A move that grants a handle nothing leaves it as it is, or puts a new one in its place. -/
theorem after_ungranted (nothing : ¬ x.Grants name m) :
    (x.after m).handles name = x.handles name ∨ (x.after m).tag? name = none := by
  cases m with
  | bind other resource leaseId fresh =>
    cases bound : Handle.bind resource leaseId fresh with
    | error f => exact .inl (by rw [after_bind_error bound])
    | ok h =>
      rw [after_bind_ok bound]
      by_cases same : name = other
      · subst same
        exact .inr (by simp [tag?, bind_revision bound])
      · exact .inl (put_handles_of_ne x same h)
  | perform other ask =>
    cases held : x.handles other with
    | none => exact .inl (by rw [after_perform_none held])
    | some h =>
      rw [after_perform held]
      by_cases same : name = other
      · subst same
        have unreplied : (h.turn Service.transport ask x.service).1.reply? = none := by
          refine Option.eq_none_iff_forall_not_mem.mpr fun reply replied => ?_
          exact nothing ⟨ask, h, reply, rfl, held, replied⟩
        rw [put_handles_self, Handle.turn_after, Turn.grant?, unreplied]
        exact .inl held.symm
      · exact .inl (put_handles_of_ne _ same _)
  | deed d => exact .inl rfl

theorem afterAll_ungranted (since : x.Ungranted name moves) :
    (x.afterAll moves).handles name = x.handles name ∨ (x.afterAll moves).tag? name = none := by
  induction moves generalizing x with
  | nil => exact .inl rfl
  | cons m moves ih =>
    obtain ⟨first, rest⟩ := since
    obtain kept | new := after_ungranted first
    · rw [← kept]
      exact ih rest
    · obtain kept' | new' := ih rest
      · refine .inr ?_
        rw [afterAll_cons, tag?, kept']
        exact new
      · exact .inr new'

/-- A move that grants a handle something leaves it with the tag that the file then has. -/
theorem after_granted (granted : x.Grants name m) : ∃ h f, (x.after m).handles name = some h ∧
    (x.after m).service.store.files h.path = some f ∧ (x.after m).tag? name = some f.etag := by
  obtain ⟨ask, h, reply, rfl, held, replied⟩ := granted
  have settled := Handle.turn_replied replied
  obtain ⟨answer, ha, told⟩ : ∃ answer, (Service.transport (ask.call h) x.service).1 = .ok answer ∧
      (ask.call h).reply? answer = some reply := by
    unfold Turn.reply? at replied
    split at replied
    · exact ⟨_, ‹_›, replied⟩
    · cases replied
  rcases ht : Service.transport (ask.call h) x.service with ⟨result, s⟩
  obtain rfl : result = .ok answer := by rw [← ha, ht]
  obtain ⟨-, f, f', found, -, rfl⟩ := Service.transport_eq_ok.mp ht
  rw [Ask.call, Handle.call_path] at found
  obtain ⟨g, hg, -, reported⟩ := Service.files_call found (ask.call h)
  refine ⟨h.settle (ask.op, reply), g, ?_, ?_, ?_⟩
  · rw [after_perform held, put_handles_self, settled]
  · rw [after_perform held]
    exact hg
  · rw [after_perform held, tag?, put_handles_self, settled]
    exact congrArg some (reported answer reply (h.call_path _ _) ha told).1

theorem ungranted_or_granted (x : Clients) (name : String) (moves : List Move) :
    x.Ungranted name moves ∨ ∃ past m rest, moves = past ++ m :: rest ∧
      (x.afterAll past).Grants name m ∧ ((x.afterAll past).after m).Ungranted name rest := by
  induction moves generalizing x with
  | nil => exact .inl trivial
  | cons m moves ih =>
    obtain nothing | ⟨past, m', rest, rfl, granted, since⟩ := ih (x.after m)
    · by_cases granted : x.Grants name m
      · exact .inr ⟨[], m, moves, rfl, granted, nothing⟩
      · exact .inl ⟨granted, nothing⟩
    · exact .inr ⟨m :: past, m', rest, rfl, granted, since⟩

/-- A handle that has noted a tag was granted something, a last time. -/
theorem exists_last_grant {now : Instant} {tag : String}
    (noted : ((start now).afterAll moves).tag? name = some tag) :
    ∃ past m rest, moves = past ++ m :: rest ∧ ((start now).afterAll past).Grants name m ∧
      (((start now).afterAll past).after m).Ungranted name rest := by
  obtain nothing | granted := ungranted_or_granted (start now) name moves
  · obtain kept | new := afterAll_ungranted nothing
    · rw [tag?, kept] at noted
      cases noted
    · rw [new] at noted
      cases noted
  · exact granted

/-- If the file of a handle has the tag that the handle has noted, then nothing happened to the file
since the last acquire, release or change that the handle was granted, exactly if it was not deleted
in that time. -/
theorem unaltered_iff_not_deleted (now : Instant) (moves : List Move) {name : String} {h : Handle}
    {revision : Revision} {f : FileState}
    (held : ((start now).afterAll moves).handles name = some h)
    (noted : h.revision = some revision)
    (present : ((start now).afterAll moves).service.store.files h.path = some f)
    (few : (Service.start now).mutations h.path ((start now).deeds moves) < UInt64.size - 1)
    (same : revision.etag = f.etag) :
    ∃ past m rest, moves = past ++ m :: rest ∧ ((start now).afterAll past).Grants name m ∧
      let x := ((start now).afterAll past).after m
      x.Ungranted name rest ∧
        (x.service.Unaltered h.path (x.deeds rest) ↔
          .command (.delete h.path) ∉ x.deeds rest) := by
  have tagged : ((start now).afterAll moves).tag? name = some f.etag := by
    simp [tag?, held, noted, same]
  obtain ⟨past, m, rest, rfl, granted, since⟩ := exists_last_grant tagged
  refine ⟨past, m, rest, rfl, granted, since, ?_⟩
  have split : past ++ m :: rest = past ++ [m] ++ rest := List.append_cons past m rest
  obtain ⟨x, hx⟩ : ∃ x, x = ((start now).afterAll past).after m := ⟨_, rfl⟩
  have here : (start now).afterAll (past ++ [m]) = x := by
    rw [hx, afterAll_append]
    rfl
  rw [split, afterAll_append, here] at held present tagged
  rw [split, deeds_append, here, Service.mutations_append, run_deeds, here] at few
  rw [← hx] at since ⊢
  -- the handle is still the one that was granted the lease, for a new one would have no tag
  obtain ⟨h', f', held', found, noted'⟩ := after_granted granted
  rw [← hx] at held' found noted'
  have kept : (x.afterAll rest).handles name = x.handles name := by
    obtain kept | new := afterAll_ungranted since
    · exact kept
    · rw [new] at tagged
      cases tagged
  obtain rfl : h' = h := Option.some.inj (held'.symm.trans (kept.symm.trans held))
  have tags : f'.etag = f.etag := by
    rw [tag?, kept] at tagged
    exact Option.some.inj (noted'.symm.trans tagged)
  -- the revision of the file is no greater than the number of changes up to the grant
  obtain ⟨whole, bound⟩ := numbered_afterAll now (past ++ [m]) h'.path (by omega) f'
    (by rw [here]; exact found)
  rw [afterAll_service] at present
  exact Service.unaltered_iff_of_same_tag found whole (by omega) present tags

/-- After the handle has changed its id, the clock goes back, a rival is refused the lease, another
file is deleted, and the file is not made anew. -/
theorem unaltered_of_refused_rival :
    let p : SharePath := ⟨"share", "f"⟩
    let q : SharePath := ⟨"share", "g"⟩
    let a := "aaaaaaaa-aaaa-4aaa-8aaa-aaaaaaaaaaaa"
    let b := "bbbbbbbb-bbbb-4bbb-8bbb-bbbbbbbbbbbb"
    let moves : List Move := [.deed (.command (.create p)), .deed (.command (.create q)),
      .bind "h" (File.mk p).resource (some a) "", .perform "h" ⟨.acquire, none⟩,
      .perform "h" ⟨.change b, none⟩, .deed (.command (.clock .epoch)),
      .deed (.call (.acquire p none .infinite a)), .deed (.command (.delete q)),
      .deed (.command (.create p)), .perform "h" ⟨.change "x", none⟩]
    let z := (start ⟨1700000000, 0⟩).afterAll moves
    ∃ h revision f, z.handles "h" = some h ∧ h.revision = some revision ∧
      z.service.store.files p = some f ∧ revision.etag = f.etag ∧
      ∃ past m rest, moves = past ++ m :: rest ∧
        let x := ((start ⟨1700000000, 0⟩).afterAll past).after m
        x.Ungranted "h" rest ∧ x.service.Unaltered p (x.deeds rest) := by
  intro p q a b moves z
  have held : z.handles "h" = some ⟨b, some ⟨"\"0x0000000000000003\"", ⟨1700000002, 0⟩⟩, p⟩ := by
    decide +kernel
  have present : z.service.store.files p = some ⟨.leased b, 3, ⟨1700000002, 0⟩⟩ := by
    decide +kernel
  have few : (Service.start ⟨1700000000, 0⟩).mutations p ((start ⟨1700000000, 0⟩).deeds moves) <
      UInt64.size - 1 := by decide +kernel
  have kept : .command (.delete p) ∉ (start ⟨1700000000, 0⟩).deeds moves := by decide +kernel
  refine ⟨_, _, _, held, rfl, present, by decide +kernel, ?_⟩
  obtain ⟨past, m, rest, split, -, since, iff⟩ :=
    unaltered_iff_not_deleted ⟨1700000000, 0⟩ moves held rfl present few (by decide +kernel)
  refine ⟨past, m, rest, split, since, iff.mpr fun deleted => kept ?_⟩
  rw [split, deeds_append, deeds]
  exact List.mem_append_right _ (List.mem_append_right _ deleted)

/-- The file is deleted and made anew, and a rival acquires it: now it has the tag that the handle
was told for its own lease. -/
theorem altered_under_same_tag :
    let p : SharePath := ⟨"share", "f"⟩
    let a := "aaaaaaaa-aaaa-4aaa-8aaa-aaaaaaaaaaaa"
    let b := "bbbbbbbb-bbbb-4bbb-8bbb-bbbbbbbbbbbb"
    let past : List Move := [.deed (.command (.create p)),
      .bind "h" (File.mk p).resource (some a) ""]
    let m : Move := .perform "h" ⟨.acquire, none⟩
    let rest : List Move := [.deed (.command (.delete p)), .deed (.command (.create p)),
      .deed (.call (.acquire p none .infinite b))]
    let x := ((start .epoch).afterAll past).after m
    let z := x.afterAll rest
    ((start .epoch).afterAll past).Grants "h" m ∧ x.Ungranted "h" rest ∧
      (Service.start .epoch).mutations p ((start .epoch).deeds (past ++ m :: rest)) = 2 ∧
      (∃ h revision f, z.handles "h" = some h ∧ h.revision = some revision ∧
        z.service.store.files h.path = some f ∧ revision.etag = f.etag) ∧
      ¬ x.service.Unaltered p (x.deeds rest) := by
  intro p a b past m rest x z
  have granted : ((start .epoch).afterAll past).Grants "h" m :=
    ⟨⟨.acquire, none⟩, ⟨a, none, p⟩, ⟨some a, "\"0x0000000000000002\"", ⟨1, 0⟩⟩, rfl,
      by decide +kernel, by decide +kernel⟩
  have since : x.Ungranted "h" rest := by
    refine ⟨?_, ?_, ?_, trivial⟩ <;> rintro ⟨ask, h, reply, ⟨⟩, -⟩
  refine ⟨granted, since, by decide +kernel, ?_, ?_⟩
  · exact ⟨⟨a, some ⟨"\"0x0000000000000002\"", ⟨1, 0⟩⟩, p⟩, _, ⟨.leased b, 2, ⟨1, 0⟩⟩,
      by decide +kernel, rfl, by decide +kernel, by decide +kernel⟩
  · rintro ⟨undeleted, -⟩
    revert undeleted
    decide +kernel

end Clients
end FileLease
