import FileLease.Proofs.LeaseExclusion
import FileLease.Proofs.ScopeContract

/-!
# Scopes at work on the service in memory

Work is any program of a client: commands, calls, operations of handles and scopes within, in
whatever order the results suggest. As long as nothing ends the lease of a scope, the file is leased
to it during the work and available after it, however the work ends.
-/
namespace FileLease

abbrev Journal := Service × List Service.Deed

namespace Journal

def transport : Transport Journal :=
  Service.transport.noting .call

def obey (c : Service.Command) (j : Journal) : Option Bool × Journal :=
  let (result, s) := j.1.obey c
  (result, s, j.2 ++ [.command c])

theorem transport_eq {c : Call} {s s' : Service} {answer : Except TransportError c.Answer}
    (h : Service.transport c s = (answer, s')) (past : List Service.Deed) :
    transport c (s, past) = (answer, s', past ++ [.call c]) :=
  noting_eq h Service.Deed.call past

/-- `f` does nothing to the service but deeds, and notes them down; what it did before has no
bearing on it. -/
def OnlyDeeds {β : Type} (f : Journal → β × Journal) : Prop :=
  ∀ s, ∃ result deeds, ∀ past, f (s, past) = (result, s.run deeds, past ++ deeds)

variable {α β γ : Type}

theorem OnlyDeeds.nothing (result : β) : OnlyDeeds fun j => (result, j) := by
  intro s
  exact ⟨result, [], fun past => by simp⟩

theorem OnlyDeeds.bind {f : Journal → β × Journal} {g : β → Journal → γ × Journal}
    (hf : OnlyDeeds f) (hg : ∀ b, OnlyDeeds (g b)) : OnlyDeeds fun j => g (f j).1 (f j).2 := by
  intro s
  obtain ⟨b, deeds, hd⟩ := hf s
  obtain ⟨c, more, hm⟩ := hg b (s.run deeds)
  refine ⟨c, deeds ++ more, fun past => ?_⟩
  simp only [hd, hm, Service.run_append, List.append_assoc]

theorem onlyDeeds_transport (c : Call) : OnlyDeeds (transport c) := by
  intro s
  exact ⟨(Service.transport c s).1, [.call c], fun past => transport_eq rfl past⟩

theorem onlyDeeds_obey (c : Service.Command) : OnlyDeeds (obey c) := by
  intro s
  exact ⟨(s.obey c).1, [.command c], fun past => rfl⟩

theorem onlyDeeds_perform (h : Handle) (op : Operation) (timeout : Option UInt32) :
    OnlyDeeds fun j =>
      let (result, h, j) := h.perform transport op timeout j
      ((result, h), j) := by
  intro s
  obtain ⟨answer, deeds, hd⟩ := onlyDeeds_transport (op.call h timeout) s
  cases answer with
  | error e =>
    refine ⟨(.error (.ofTransport e), h), deeds, fun past => ?_⟩
    simp only [Handle.perform_error op (hd past)]
  | ok answer =>
    refine ⟨(.ok (op.result h timeout answer), op.update h timeout answer), deeds, fun past => ?_⟩
    simp only [Handle.perform_ok op (hd past)]

theorem onlyDeeds_withLease (h : Handle) (later : Bool) (timeout : Option UInt32)
    {body : String → Journal → Exit α × Journal} (hb : ∀ id, OnlyDeeds (body id)) :
    OnlyDeeds fun j =>
      let held := h.withLease transport later timeout body j
      ((held.exit, held.handle, held.deferred), held.world) := by
  intro s
  obtain ⟨answer, deeds, hd⟩ := onlyDeeds_transport (.acquire h.path timeout .infinite h.id) s
  cases answer with
  | error e =>
    refine ⟨(.failure (.ofTransport e), h, none), deeds, fun past => ?_⟩
    simp only [Handle.withLease_refused (hd past)]
  | ok reply =>
    obtain ⟨exit, more, hm⟩ := hb (h.apply reply).id (s.run deeds)
    by_cases hx : exit = .cancelled
    · subst hx
      refine ⟨(.cancelled, h.apply reply,
        if later then some ⟨h.path, (h.apply reply).id, timeout⟩ else none),
        deeds ++ more, fun past => ?_⟩
      simp only [Handle.withLease_cancelled (hd past) (hm _), Service.run_append,
        List.append_assoc]
      cases later <;> rfl
    · obtain ⟨answer, last, hl⟩ := onlyDeeds_transport
        (.release h.path (h.apply reply).id timeout) ((s.run deeds).run more)
      cases answer with
      | ok given =>
        refine ⟨(exit, (h.apply reply).apply given, none), deeds ++ more ++ last, fun past => ?_⟩
        simp only [Handle.withLease_released (hd past) (hm _) hx (hl _), Service.run_append,
          List.append_assoc]
      | error e =>
        refine ⟨(exit.unreleased e, h.apply reply, none), deeds ++ more ++ last, fun past => ?_⟩
        simp only [Handle.withLease_unreleased (hd past) (hm _) hx (hl _), Service.run_append,
          List.append_assoc]

end Journal

/-- A client's program for a service; each result decides what is done next. -/
inductive Work : Type → Type 1
  | finish {α : Type} (exit : Exit α) : Work α
  | obey {α : Type} (c : Service.Command) (next : Option Bool → Work α) : Work α
  | call {α : Type} (c : Call) (next : Except TransportError c.Answer → Work α) : Work α
  | perform {α : Type} (h : Handle) (op : Operation) (timeout : Option UInt32)
      (next : Except Failure (Option UInt32) → Handle → Work α) : Work α
  | scope {α β : Type} (h : Handle) (timeout : Option UInt32) (body : String → Work β)
      (next : Exit β → Handle → Option Deferred → Work α) : Work α

namespace Work

/-- Does the work. With `later` scopes leave the release of cancelled work behind. -/
def run (later : Bool) {α : Type} : Work α → Journal → Exit α × Journal
  | .finish exit, j => (exit, j)
  | .obey c next, j =>
    let (result, j) := j.obey c
    (next result).run later j
  | .call c next, j =>
    let (answer, j) := Journal.transport c j
    (next answer).run later j
  | .perform h op timeout next, j =>
    let (result, h, j) := h.perform Journal.transport op timeout j
    (next result h).run later j
  | .scope h timeout body next, j =>
    let held := h.withLease Journal.transport later timeout (fun id => (body id).run later) j
    (next held.exit held.handle held.deferred).run later held.world

variable {α : Type}

def exit (later : Bool) (work : Work α) (s : Service) : Exit α :=
  (work.run later (s, [])).1

def deeds (later : Bool) (work : Work α) (s : Service) : List Service.Deed :=
  (work.run later (s, [])).2.2

theorem onlyDeeds_run (later : Bool) (work : Work α) : Journal.OnlyDeeds (work.run later) := by
  induction work with
  | finish exit => exact .nothing exit
  | obey c next ih => exact (Journal.onlyDeeds_obey c).bind fun result => ih result
  | call c next ih => exact (Journal.onlyDeeds_transport c).bind fun answer => ih answer
  | perform h op timeout next ih =>
    exact (Journal.onlyDeeds_perform h op timeout).bind fun r => ih r.1 r.2
  | scope h timeout body next ihb ihn =>
    exact (Journal.onlyDeeds_withLease h later timeout ihb).bind fun r => ihn r.1 r.2.1 r.2.2

theorem run_eq (later : Bool) (work : Work α) (s : Service) (past : List Service.Deed) :
    work.run later (s, past) =
      (work.exit later s, s.run (work.deeds later s), past ++ work.deeds later s) := by
  obtain ⟨exit, deeds, hd⟩ := onlyDeeds_run later work s
  have hx : work.exit later s = exit := by rw [Work.exit, hd]
  have hw : work.deeds later s = deeds := by rw [Work.deeds, hd, List.nil_append]
  rw [hx, hw, hd]

end Work

variable {α : Type}

/-- A scope whose lease nobody ends, on a service that no timeout awaits after the work. -/
theorem lease_held_then_released {later : Bool} {h : Handle} {timeout : Option UInt32}
    {work : String → Work α} {s s₁ : Service} {reply : LeaseReply} (past : List Service.Deed)
    (granted : Service.transport (.acquire h.path timeout .infinite h.id) s = (.ok reply, s₁))
    (quiet : ∀ d ∈ (work h.id).deeds later s₁, ¬ d.Ends h.path h.id)
    (settled : (s₁.run ((work h.id).deeds later s₁)).store.timeoutPending = false) :
    let deeds := (work h.id).deeds later s₁
    let exit := (work h.id).exit later s₁
    let scope := h.withLease Journal.transport later timeout
      (fun id => (work id).run later) (s, past)
    (∀ before after, deeds = before ++ after →
      (s₁.run before).lease? h.path = some (.leased h.id)) ∧
    (exit ≠ .cancelled → scope.exit = exit ∧
      (∃ last, Service.transport (.release h.path h.id timeout) (s₁.run deeds) =
        (.ok last, scope.world.1)) ∧
      scope.world.1.lease? h.path = some .available) ∧
    (exit = .cancelled → scope.exit = .cancelled ∧
      (later = true → ∃ d, scope.deferred = some d ∧
        (d.run Service.transport scope.world.1).1 = [] ∧
        (d.run Service.transport scope.world.1).2.lease? h.path = some .available) ∧
      (later = false → scope.deferred = none ∧
        scope.world.1.lease? h.path = some (.leased h.id))) := by
  intro deeds exit scope
  obtain ⟨hg, hr, held⟩ := Service.acquire_granted granted
  have hid : (h.apply reply).id = h.id := by rw [Handle.apply_id_of_some hr, ite_self]
  have ha := Journal.transport_eq granted past
  have hb : (work (h.apply reply).id).run later
      (s₁, past ++ [.call (.acquire h.path timeout .infinite h.id)]) =
      (exit, s₁.run deeds, past ++ [.call (.acquire h.path timeout .infinite h.id)] ++ deeds) := by
    rw [hid]
    exact Work.run_eq later (work h.id) s₁ _
  have held' : (s₁.run deeds).lease? h.path = some (.leased h.id) := Service.lease?_run held quiet
  obtain ⟨last, s₃, hrel, free⟩ := Service.release_granted held' hg settled timeout
  have hrel' : Service.transport (.release h.path (h.apply reply).id timeout) (s₁.run deeds) =
      (.ok last, s₃) := by
    rw [hid]
    exact hrel
  refine ⟨?_, ?_, ?_⟩
  · intro before after split
    rw [show (work h.id).deeds later s₁ = before ++ after from split] at quiet
    exact Service.lease?_before held quiet
  · intro hx
    have hs : scope = _ :=
      Handle.withLease_released ha hb hx (Journal.transport_eq hrel' _)
    rw [hs]
    exact ⟨rfl, ⟨last, hrel⟩, free⟩
  · intro hx
    rw [hx] at hb
    have hs : scope = _ := Handle.withLease_cancelled ha hb
    cases later with
    | false =>
      rw [hs]
      exact ⟨rfl, fun h' => (by cases h'), fun _ => ⟨rfl, held'⟩⟩
    | true =>
      rw [hs]
      refine ⟨rfl, fun _ => ⟨_, rfl, ?_⟩, fun h' => by cases h'⟩
      have hd := deferred_run_ok ⟨h.path, (h.apply reply).id, timeout⟩ hrel'
      exact ⟨congrArg Prod.fst hd, congrArg (fun r => r.2.lease? h.path) hd ▸ free⟩

/-- Another handle asks for the file in vain, holds another file in a scope, and the work panics. -/
theorem lease_held_then_released_after_panic :
    let a := "aaaaaaaa-aaaa-4aaa-8aaa-aaaaaaaaaaaa"
    let b := "bbbbbbbb-bbbb-4bbb-8bbb-bbbbbbbbbbbb"
    let h : Handle := ⟨a, none, ⟨"share", "f"⟩⟩
    let work : String → Work Unit := fun _ =>
      .perform ⟨b, none, ⟨"share", "f"⟩⟩ .acquire none fun _ _ =>
        .scope ⟨b, none, ⟨"share", "g"⟩⟩ none (fun _ => .finish (.value ())) fun _ _ _ =>
          .finish (.panic "no more")
    let s := (Service.start .epoch).run
      [.command (.create ⟨"share", "f"⟩), .command (.create ⟨"share", "g"⟩)]
    let s₁ := (Service.transport (.acquire h.path none .infinite h.id) s).2
    let scope := h.withLease Journal.transport false none
      (fun id => (work id).run false) (s, [])
    (∃ reply, Service.transport (.acquire h.path none .infinite h.id) s = (.ok reply, s₁)) ∧
      (∀ d ∈ (work h.id).deeds false s₁, ¬ d.Ends h.path h.id) ∧
      scope.exit = .panic "no more" ∧ scope.world.1.lease? h.path = some .available := by
  intro a b h work s s₁ scope
  have free : s.lease? h.path = some .available := by decide +kernel
  have guid : Guid.isGuid h.id = true := by decide +kernel
  obtain ⟨reply, granted⟩ := Service.acquire_available free guid rfl none
  have done : (work h.id).deeds false s₁ =
      [.call (.acquire ⟨"share", "f"⟩ none .infinite b),
        .call (.acquire ⟨"share", "g"⟩ none .infinite b),
        .call (.release ⟨"share", "g"⟩ b none)] := by
    decide +kernel
  have quiet : ∀ d ∈ (work h.id).deeds false s₁, ¬ d.Ends h.path h.id := by
    rw [done]
    simp [Service.Deed.Ends, h]
  have settled : (s₁.run ((work h.id).deeds false s₁)).store.timeoutPending = false := by
    decide +kernel
  obtain ⟨-, ended, -⟩ :=
    @lease_held_then_released Unit false h none work s s₁ reply [] granted quiet settled
  obtain ⟨exit, -, free⟩ := ended (fun hx => by cases hx)
  exact ⟨⟨reply, granted⟩, quiet, exit, free⟩

end FileLease
