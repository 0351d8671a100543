import FileLease.Proofs.ScopeContract

/-!
# What operations make of a handle

Id and revision of a handle follow from the replies of the service alone. A granted acquire, release
or change settles both; a failed call and a break settle nothing.
-/
namespace FileLease

variable {ω : Type}

structure Ask where
  op : Operation
  timeout : Option UInt32
  deriving DecidableEq, Repr

def Ask.call (a : Ask) (h : Handle) : Call :=
  a.op.call h a.timeout

/-- One operation of a run: the handle before it, the answer to its call, what the client is told,
and the handle after it. -/
structure Turn where
  before : Handle
  ask : Ask
  answer : Except TransportError (ask.call before).Answer
  result : Except Failure (Option UInt32)
  after : Handle

namespace Handle

def turn (t : Transport ω) (a : Ask) (h : Handle) (w : ω) : Turn × ω :=
  let (result, after, world) := h.perform t a.op a.timeout w
  (⟨h, a, (t (a.call h) w).1, result, after⟩, world)

def turns (t : Transport ω) : List Ask → Handle → ω → List Turn × ω
  | [], _, w => ([], w)
  | a :: asks, h, w =>
    let (x, w) := h.turn t a w
    let (xs, w) := turns t asks x.after w
    (x :: xs, w)

def atEnd (h : Handle) (xs : List Turn) : Handle :=
  xs.foldl (fun _ x => x.after) h

end Handle

def Call.reply? : (c : Call) → c.Answer → Option LeaseReply
  | .acquire .., reply => some reply
  | .release .., reply => some reply
  | .change .., reply => some reply
  | .break .., _ => none

/-- The id under which the handle goes on if the service names none. -/
def Operation.ownId (id : String) : Operation → String
  | .change proposed => proposed
  | .acquire | .release | .break => id

namespace Turn

def reply? (x : Turn) : Option LeaseReply :=
  match x.answer with
  | .ok answer => (x.ask.call x.before).reply? answer
  | .error _ => none

/-- What a turn settles: the operation that was granted, and the reply. -/
def grant? (x : Turn) : Option (Operation × LeaseReply) :=
  x.reply?.map fun reply => (x.ask.op, reply)

end Turn

/-- The handle that a granted operation settles: the id that the reply names, unless it is empty,
and the revision that it tells. -/
def Handle.settle (h : Handle) (grant : Operation × LeaseReply) : Handle :=
  let own := grant.1.ownId h.id
  ⟨match grant.2.leaseId with
    | some id => if id = "" then own else id
    | none => own,
    some ⟨grant.2.etag, grant.2.lastModified⟩, h.path⟩

namespace Handle

theorem apply_eq_settle (h : Handle) (reply : LeaseReply) {op : Operation}
    (ho : op.ownId h.id = h.id) : h.apply reply = h.settle (op, reply) := by
  have hid : (h.apply reply).id = (h.settle (op, reply)).id := by
    cases hl : reply.leaseId with
    | none => simp only [apply_id_of_none hl, settle, hl, ho]
    | some id => simp only [apply_id_of_some hl, settle, hl, ho]
  simpa [apply, settle] using hid

theorem update_eq_settle (h : Handle) (timeout : Option UInt32) (op : Operation)
    (answer : (op.call h timeout).Answer) :
    op.update h timeout answer =
      ((((op.call h timeout).reply? answer).map fun reply => (op, reply)).map h.settle).getD h := by
  cases op with
  | acquire => exact h.apply_eq_settle answer rfl
  | release => exact h.apply_eq_settle answer rfl
  | change proposed =>
    -- the proposed id is put in place before the reply is looked at
    have own : (Operation.change proposed).ownId proposed = proposed := rfl
    exact ({ h with id := proposed } : Handle).apply_eq_settle answer own
  | «break» => rfl

variable {t : Transport ω} {a : Ask} {h : Handle} {w w' : ω}

theorem turn_error {e : TransportError} (he : t (a.call h) w = (.error e, w')) :
    h.turn t a w = (⟨h, a, .error e, .error (.ofTransport e), h⟩, w') := by
  simp only [turn, perform_error a.op he, he]

theorem turn_ok {answer : (a.call h).Answer} (ha : t (a.call h) w = (.ok answer, w')) :
    h.turn t a w = (⟨h, a, .ok answer, .ok (a.op.result h a.timeout answer),
      a.op.update h a.timeout answer⟩, w') := by
  simp only [turn, perform_ok a.op ha, ha]

/-- A turn settles the handle as its reply says, if it has one. -/
theorem turn_after (t : Transport ω) (a : Ask) (h : Handle) (w : ω) :
    (h.turn t a w).1.after = ((h.turn t a w).1.grant?.map h.settle).getD h := by
  rcases ha : t (a.call h) w with ⟨answer, w'⟩
  cases answer with
  | error e =>
    rw [turn_error ha]
    rfl
  | ok answer =>
    rw [turn_ok ha]
    exact update_eq_settle h a.timeout a.op answer

@[simp] theorem turn_ask (t : Transport ω) (a : Ask) (h : Handle) (w : ω) :
    (h.turn t a w).1.ask = a := rfl

theorem turns_cons (t : Transport ω) (a : Ask) (asks : List Ask) (h : Handle) (w : ω) :
    (h.turns t (a :: asks) w).1 = (h.turn t a w).1 ::
      ((h.turn t a w).1.after.turns t asks (h.turn t a w).2).1 := rfl

theorem turns_cons_world (t : Transport ω) (a : Ask) (asks : List Ask) (h : Handle) (w : ω) :
    (h.turns t (a :: asks) w).2 =
      ((h.turn t a w).1.after.turns t asks (h.turn t a w).2).2 := rfl

theorem turns_map_ask (t : Transport ω) (asks : List Ask) (h : Handle) (w : ω) :
    (h.turns t asks w).1.map Turn.ask = asks := by
  induction asks generalizing h w with
  | nil => rfl
  | cons a asks ih => rw [turns_cons, List.map_cons, turn_ask, ih]

def grants (xs : List Turn) : List (Operation × LeaseReply) :=
  xs.filterMap Turn.grant?

theorem turn_settles (t : Transport ω) (a : Ask) (h : Handle) (w : ω) (xs : List Turn) :
    (grants xs).foldl settle (h.turn t a w).1.after =
      (grants ((h.turn t a w).1 :: xs)).foldl settle h := by
  rw [turn_after, grants, grants, List.filterMap_cons]
  cases (h.turn t a w).1.grant? <;> rfl

/-- After any part of a run the handle is what the replies up to then have made of it. -/
theorem atEnd_eq_foldl {asks : List Ask} {past rest : List Turn}
    (hs : (h.turns t asks w).1 = past ++ rest) :
    h.atEnd past = (grants past).foldl settle h := by
  induction past generalizing asks h w with
  | nil => rfl
  | cons x past ih =>
    cases asks with
    | nil => simp [turns] at hs
    | cons a asks =>
      rw [turns_cons, List.cons_append, List.cons.injEq] at hs
      obtain ⟨rfl, hs⟩ := hs
      exact (ih hs).trans (turn_settles t a h w past)

/-- Every turn of a run starts from the handle that the turns before it left. -/
theorem turn_of_split {asks : List Ask} {past rest : List Turn} {x : Turn}
    (hs : (h.turns t asks w).1 = past ++ x :: rest) :
    ∃ a w', x = ((h.atEnd past).turn t a w').1 := by
  induction past generalizing asks h w with
  | nil =>
    cases asks with
    | nil => simp [turns] at hs
    | cons a asks =>
      rw [turns_cons, List.nil_append, List.cons.injEq] at hs
      exact ⟨a, w, hs.1.symm⟩
  | cons y past ih =>
    cases asks with
    | nil => simp [turns] at hs
    | cons a asks =>
      rw [turns_cons, List.cons_append, List.cons.injEq] at hs
      obtain ⟨rfl, hs⟩ := hs
      exact ih hs

theorem foldl_settle_path (h : Handle) (gs : List (Operation × LeaseReply)) :
    (gs.foldl settle h).path = h.path := by
  induction gs generalizing h with
  | nil => rfl
  | cons g gs ih => exact ih (h.settle g)

theorem turn_path (t : Transport ω) (a : Ask) (h : Handle) (w : ω) :
    (h.turn t a w).1.after.path = h.path := by
  rw [turn_after]
  cases (h.turn t a w).1.grant? <;> rfl

theorem turn_failed {f : Failure} (hf : (h.turn t a w).1.result = .error f) :
    (h.turn t a w).1.after = h := by
  rcases ha : t (a.call h) w with ⟨answer, w'⟩
  cases answer with
  | error e => rw [turn_error ha]
  | ok answer =>
    rw [turn_ok ha] at hf
    cases hf

theorem turn_break (hb : a.op = .break) : (h.turn t a w).1.after = h := by
  obtain ⟨op, timeout⟩ := a
  subst hb
  rcases ha : t (Ask.call ⟨.break, timeout⟩ h) w with ⟨answer, w'⟩
  cases answer with
  | error e => rw [turn_error ha]
  | ok answer => rw [turn_ok ha]; rfl

theorem turn_granted {seconds : Option UInt32} (hr : (h.turn t a w).1.result = .ok seconds)
    (hb : a.op ≠ .break) : ∃ reply, (h.turn t a w).1.reply? = some reply := by
  obtain ⟨op, timeout⟩ := a
  rcases ha : t (Ask.call ⟨op, timeout⟩ h) w with ⟨answer, w'⟩
  cases answer with
  | error e =>
    rw [turn_error ha] at hr
    cases hr
  | ok answer =>
    rw [turn_ok ha]
    cases op with
    | acquire => exact ⟨answer, rfl⟩
    | release => exact ⟨answer, rfl⟩
    | change proposed => exact ⟨answer, rfl⟩
    | «break» => exact absurd rfl hb

theorem turn_replied {reply : LeaseReply} (hr : (h.turn t a w).1.reply? = some reply) :
    (h.turn t a w).1.after = h.settle (a.op, reply) := by
  rw [turn_after, Turn.grant?, hr]
  rfl

theorem settle_id_of_named {grant : Operation × LeaseReply} {id : String}
    (hn : grant.2.leaseId = some id) (hi : id ≠ "") : (h.settle grant).id = id := by
  simp only [settle, hn, hi, if_false]

theorem settle_id_of_unnamed {grant : Operation × LeaseReply}
    (hn : ∀ id, grant.2.leaseId = some id → id = "") :
    (h.settle grant).id = grant.1.ownId h.id := by
  cases hl : grant.2.leaseId with
  | none => simp only [settle, hl]
  | some id => simp only [settle, hl, hn id hl, if_true]

/-- The handle is the fold of the replies to its granted acquires, releases and changes: after every
part of a run, and turn by turn. A failure of any kind and a break change nothing. -/
theorem state_folds_replies (t : Transport ω) (h : Handle) (w : ω) (asks : List Ask) :
    let xs := (h.turns t asks w).1
    xs.map Turn.ask = asks ∧ h.atEnd xs = (grants xs).foldl settle h ∧
      ∀ past x rest, xs = past ++ x :: rest →
        x.before = (grants past).foldl settle h ∧ x.after.path = h.path ∧
        (∀ f, x.result = .error f → x.after = x.before) ∧
        (x.ask.op = .break → x.after = x.before) ∧
        ∀ seconds, x.result = .ok seconds → x.ask.op ≠ .break →
          ∃ reply, x.reply? = some reply ∧
            x.after.revision = some ⟨reply.etag, reply.lastModified⟩ ∧
            (∀ id, reply.leaseId = some id → id ≠ "" → x.after.id = id) ∧
            ((∀ id, reply.leaseId = some id → id = "") →
              x.after.id = x.ask.op.ownId x.before.id) := by
  intro xs
  refine ⟨turns_map_ask t asks h w, atEnd_eq_foldl (List.append_nil _).symm, ?_⟩
  intro past x rest hs
  obtain ⟨a, w', rfl⟩ := turn_of_split hs
  have hpast : h.atEnd past = (grants past).foldl settle h := atEnd_eq_foldl hs
  have hpath : ((h.atEnd past).turn t a w').1.after.path = h.path := by
    rw [turn_path, hpast, foldl_settle_path]
  refine ⟨hpast, hpath, fun f => turn_failed, turn_break, ?_⟩
  intro seconds hr hb
  obtain ⟨reply, hreply⟩ := turn_granted hr hb
  have hafter := turn_replied hreply
  refine ⟨reply, hreply, ?_, ?_, ?_⟩
  · rw [hafter]
    rfl
  · intro id hn hi
    rw [hafter]
    exact settle_id_of_named hn hi
  · intro hn
    rw [hafter]
    exact settle_id_of_unnamed hn

/-- The service names an id of its own, then it times out, and then it grants a change without a
word about the id; the break comes to nothing. -/
theorem state_folds_replies_of_script :
    let h : Handle := ⟨"x", none, ⟨"share", "f"⟩⟩
    let xs := (h.turns Script.transport
      [⟨.acquire, none⟩, ⟨.release, none⟩, ⟨.change "z", none⟩, ⟨.break, none⟩]
      [.lease ⟨some "y", "1", .epoch⟩, .failure .timeout, .lease ⟨none, "2", .epoch⟩,
        .failure .timeout]).1
    h.atEnd xs = ⟨"z", some ⟨"2", .epoch⟩, h.path⟩ ∧
      ∀ x ∈ xs.take 2, x.after.id = "y" := by
  intro h xs
  obtain ⟨-, fold, turn⟩ := state_folds_replies Script.transport h
    [.lease ⟨some "y", "1", .epoch⟩, .failure .timeout, .lease ⟨none, "2", .epoch⟩,
      .failure .timeout]
    [⟨.acquire, none⟩, ⟨.release, none⟩, ⟨.change "z", none⟩, ⟨.break, none⟩]
  refine ⟨fold.trans (by decide), ?_⟩
  obtain ⟨-, -, -, -, granted⟩ := turn [] _ _ rfl
  obtain ⟨-, -, failed, -⟩ := turn [_] _ _ rfl
  obtain ⟨reply, hreply, -, named, -⟩ := granted none rfl (by decide)
  cases hreply
  have first := named "y" rfl (by decide)
  intro x hx
  obtain rfl | rfl : x = _ ∨ x = _ := by simpa [xs, turns] using hx
  · exact first
  · exact (congrArg Handle.id (failed _ rfl)).trans first

end Handle
end FileLease
