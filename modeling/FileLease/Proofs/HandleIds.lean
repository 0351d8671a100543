import FileLease.Proofs.ScopeContract
import FileLease.Script

/-!
# When the id of a handle can be empty

A handle starts with an id, and a granted call replaces it by no empty one that the service names.
Only a change to the empty string can take it away, and does so if the service names no id itself.
-/
namespace FileLease

variable {α ω : Type}

namespace Handle

/-- A handle as it is made for a resource, with a given id, a fresh one or one from given bytes. -/
def Bound (h : Handle) : Prop :=
  (∃ resource leaseId bytes, bind resource leaseId (Guid.ofEntropy bytes) = .ok h) ∨
    ∃ resource bytes, bindEntropy resource bytes = .ok h

theorem ofEntropy_ne_empty (bytes : Vector UInt8 16) : Guid.ofEntropy bytes ≠ "" := by
  simp [Guid.ofEntropy, Guid.render, Guid.groups, Guid.cut, List.intercalate]

theorem bind_id_ne_empty {resource : Resource} {leaseId : Option String} {fresh : String}
    {h : Handle} (hf : leaseId = none → fresh ≠ "") (hb : bind resource leaseId fresh = .ok h) :
    h.id ≠ "" := by
  unfold bind at hb
  cases he : resource.endpoint with
  | none => simp [he] at hb
  | some path =>
    cases leaseId with
    | none =>
      simp only [he, Except.ok.injEq] at hb
      rw [← hb]
      exact hf rfl
    | some id =>
      simp only [he] at hb
      split at hb
      · cases hb
      · -- the empty string is blank
        rename_i hi
        cases hb
        rintro rfl
        exact hi rfl

theorem Bound.id_ne_empty {h : Handle} (hb : h.Bound) : h.id ≠ "" := by
  obtain ⟨resource, leaseId, bytes, hb⟩ | ⟨resource, bytes, hb⟩ := hb
  · exact bind_id_ne_empty (fun _ => ofEntropy_ne_empty bytes) hb
  · exact bind_id_ne_empty (fun h' => by cases h') hb

theorem apply_id_ne_empty {h : Handle} (hi : h.id ≠ "") (reply : LeaseReply) :
    (h.apply reply).id ≠ "" := by
  cases hl : reply.leaseId with
  | none =>
    rw [apply_id_of_none hl]
    exact hi
  | some id =>
    rw [apply_id_of_some hl]
    split
    · exact hi
    · assumption

theorem apply_id_eq_empty_iff {h : Handle} (hi : h.id = "") {reply : LeaseReply} :
    (h.apply reply).id = "" ↔ ∀ id, reply.leaseId = some id → id = "" := by
  cases hl : reply.leaseId with
  | none => simp [apply_id_of_none hl, hi]
  | some id => by_cases he : id = "" <;> simp [apply_id_of_some hl, hi, he]

theorem withLease_id_ne_empty {h : Handle} (hi : h.id ≠ "") (t : Transport ω) (later : Bool)
    (timeout : Option UInt32) (body : String → ω → Exit α × ω) (w : ω) :
    (h.withLease t later timeout body w).handle.id ≠ "" := by
  obtain he | ⟨reply, he⟩ | ⟨reply, last, he⟩ := withLease_handle t later timeout body h w
  · rw [he]
    exact hi
  · rw [he]
    exact apply_id_ne_empty hi reply
  · rw [he]
    exact apply_id_ne_empty (apply_id_ne_empty hi reply) last

end Handle

/-- What a client does with a handle: an operation, or work while the lease is held. -/
inductive Use (α ω : Type)
  | operation (op : Operation) (timeout : Option UInt32)
  | scope (later : Bool) (timeout : Option UInt32) (body : String → ω → Exit α × ω)

namespace Use

variable {t : Transport ω} {s : Handle × ω}

def after (t : Transport ω) : Use α ω → Handle × ω → Handle × ω
  | .operation op timeout, (h, w) => (h.perform t op timeout w).2
  | .scope later timeout body, (h, w) =>
    let held := h.withLease t later timeout body w
    (held.handle, held.world)

def ids (t : Transport ω) (use : Use α ω) (s : Handle × ω) : List String :=
  match use with
  | .operation _ _ => [(use.after t s).1.id]
  | .scope _ timeout _ => [(s.1.perform t .acquire timeout s.2).2.1.id, (use.after t s).1.id]

/-- A change to the empty string, granted by a reply that names no other id. -/
def EmptiesId (t : Transport ω) (use : Use α ω) (s : Handle × ω) : Prop :=
  ∃ timeout reply w, use = .operation (.change "") timeout ∧
    t (.change s.1.path s.1.id "" timeout) s.2 = (.ok reply, w) ∧
    ∀ id, reply.leaseId = some id → id = ""

theorem perform_id_ne_empty (hi : s.1.id ≠ "") {op : Operation} (ho : op ≠ .change "")
    (timeout : Option UInt32) : (s.1.perform t op timeout s.2).2.1.id ≠ "" := by
  rcases ha : t (op.call s.1 timeout) s.2 with ⟨answer, w⟩
  cases answer with
  | error e =>
    rw [Handle.perform_error op ha]
    exact hi
  | ok answer =>
    rw [Handle.perform_ok op ha]
    cases op with
    | acquire => exact Handle.apply_id_ne_empty hi answer
    | release => exact Handle.apply_id_ne_empty hi answer
    | change proposed =>
      refine Handle.apply_id_ne_empty ?_ answer
      rintro rfl
      exact ho rfl
    | «break» => exact hi

theorem change_id_eq_empty_iff (hi : s.1.id ≠ "") (timeout : Option UInt32) :
    (s.1.perform t (.change "") timeout s.2).2.1.id = "" ↔
      EmptiesId t (.operation (.change "") timeout : Use α ω) s := by
  constructor
  · intro he
    rcases ha : t (.change s.1.path s.1.id "" timeout) s.2 with ⟨answer, w⟩
    cases answer with
    | error e =>
      rw [Handle.perform_error (.change "") ha] at he
      exact absurd he hi
    | ok reply =>
      rw [Handle.perform_ok (.change "") ha] at he
      exact ⟨timeout, reply, w, rfl, ha, (Handle.apply_id_eq_empty_iff rfl).mp he⟩
  · rintro ⟨timeout, reply, w, hu, ha, hn⟩
    cases hu
    rw [Handle.perform_ok (.change "") ha]
    exact (Handle.apply_id_eq_empty_iff rfl).mpr hn

theorem empty_mem_ids_iff (hi : s.1.id ≠ "") (use : Use α ω) :
    "" ∈ use.ids t s ↔ use.EmptiesId t s := by
  cases use with
  | operation op timeout =>
    have hm : "" ∈ ids t (.operation op timeout : Use α ω) s ↔
        (s.1.perform t op timeout s.2).2.1.id = "" := by
      rw [ids, List.mem_singleton, eq_comm]
      rfl
    rw [hm]
    by_cases ho : op = .change ""
    · subst ho
      exact change_id_eq_empty_iff hi timeout
    · constructor
      · intro he
        exact absurd he (perform_id_ne_empty hi ho timeout)
      · rintro ⟨timeout, reply, w, hu, -⟩
        cases hu
        exact absurd rfl ho
  | scope later timeout body =>
    constructor
    · intro hm
      obtain he | he : "" = _ ∨ "" = _ := by
        simpa only [ids, List.mem_cons, List.not_mem_nil, or_false] using hm
      · exact absurd he.symm (perform_id_ne_empty hi (by decide) timeout)
      · exact absurd he.symm (Handle.withLease_id_ne_empty hi t later timeout body s.2)
    · rintro ⟨timeout, reply, w, hu, -⟩
      cases hu

theorem after_id_mem_ids (t : Transport ω) (use : Use α ω) (s : Handle × ω) :
    (use.after t s).1.id ∈ use.ids t s := by
  cases use with
  | operation op timeout => exact List.mem_singleton_self _
  | scope later timeout body => exact List.mem_cons_of_mem _ (List.mem_singleton_self _)

def afterAll (t : Transport ω) (uses : List (Use α ω)) (s : Handle × ω) : Handle × ω :=
  uses.foldl (fun s use => use.after t s) s

def allIds (t : Transport ω) : List (Use α ω) → Handle × ω → List String
  | [], s => [s.1.id]
  | use :: uses, s => s.1.id :: (use.ids t s ++ allIds t uses (use.after t s))

theorem empty_mem_allIds_iff (hi : s.1.id ≠ "") (uses : List (Use α ω)) :
    "" ∈ allIds t uses s ↔ ∃ before use after, uses = before ++ use :: after ∧
      use.EmptiesId t (afterAll t before s) := by
  induction uses generalizing s with
  | nil =>
    constructor
    · intro hm
      exact absurd (List.mem_singleton.mp hm).symm hi
    · rintro ⟨before, use, after, hs, -⟩
      simp at hs
  | cons first uses ih =>
    by_cases hf : "" ∈ first.ids t s
    · constructor
      · intro _
        exact ⟨[], first, uses, rfl, (empty_mem_ids_iff hi first).mp hf⟩
      · intro _
        exact List.mem_cons_of_mem _ (List.mem_append_left _ hf)
    · -- the id is still there after the first use, so the induction goes on from it
      have hi' : (first.after t s).1.id ≠ "" := by
        intro he
        exact hf (he ▸ after_id_mem_ids t first s)
      have hm : "" ∈ allIds t (first :: uses) s ↔ "" ∈ allIds t uses (first.after t s) := by
        simp [allIds, hf, hi.symm]
      rw [hm, ih hi']
      constructor
      · rintro ⟨before, use, after, rfl, he⟩
        exact ⟨first :: before, use, after, rfl, he⟩
      · rintro ⟨before, use, after, hs, he⟩
        cases before with
        | nil =>
          cases hs
          exact absurd ((empty_mem_ids_iff hi first).mpr he) hf
        | cons use' before =>
          cases hs
          exact ⟨before, use, after, rfl, he⟩

/-- A handle keeps an id that is not empty exactly as long as no change to the empty string is
granted by a reply that names no other id. -/
theorem ids_ne_empty_iff (t : Transport ω) {h : Handle} (hb : h.Bound) (w : ω)
    (uses : List (Use α ω)) :
    (∀ id ∈ allIds t uses (h, w), id ≠ "") ↔ ∀ before use after, uses = before ++ use :: after →
      ¬ use.EmptiesId t (afterAll t before (h, w)) := by
  have he := empty_mem_allIds_iff (t := t) (s := (h, w)) hb.id_ne_empty uses
  constructor
  · intro hn before use after hs hu
    exact hn "" (he.mpr ⟨before, use, after, hs, hu⟩) rfl
  · rintro hn id hm rfl
    obtain ⟨before, use, after, hs, hu⟩ := he.mp hm
    exact hn before use after hs hu

private theorem bound_x : (⟨"x", none, ⟨"share", "f"⟩⟩ : Handle).Bound :=
  .inl ⟨(File.mk ⟨"share", "f"⟩).resource, some "x", .replicate 16 0, rfl⟩

/-- A reply that names an id of its own grants a change to the empty string without harm. -/
theorem ids_ne_empty_of_named :
    (⟨"x", none, ⟨"share", "f"⟩⟩ : Handle).Bound ∧
      ∀ id ∈ allIds Script.transport [(.operation (.change "") none : Use Unit _)]
        (⟨"x", none, ⟨"share", "f"⟩⟩, [.lease ⟨some "y", "e", .epoch⟩]), id ≠ "" := by
  refine ⟨bound_x, (ids_ne_empty_iff Script.transport bound_x _ _).mpr ?_⟩
  rintro before use after hs ⟨timeout, reply, w, hu, ha, hn⟩
  cases before with
  | nil =>
    cases hs
    cases ha
    exact absurd (hn "y" rfl) (by decide)
  | cons use' before => simp at hs

/-- A reply that names no id does harm. -/
theorem id_empty_after_change :
    (⟨"x", none, ⟨"share", "f"⟩⟩ : Handle).Bound ∧
      "" ∈ allIds Script.transport [(.operation (.change "") none : Use Unit _)]
        (⟨"x", none, ⟨"share", "f"⟩⟩, [.lease ⟨none, "e", .epoch⟩]) := by
  refine ⟨bound_x, (empty_mem_allIds_iff (by decide) _).mpr ?_⟩
  refine ⟨[], _, [], rfl, none, _, _, rfl, rfl, ?_⟩
  intro id hid
  cases hid

end Use
end FileLease
