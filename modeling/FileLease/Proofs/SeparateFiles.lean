import FileLease.Proofs.ServiceRuns

/-!
# Clients at work on different files

What becomes of a file, and what is answered to a request about it, depends on the requests about
that file alone. So two clients whose files are different get the answers that they get, and leave
the files that they leave, if one of them waits until the other is done.
-/
namespace FileLease

/-- What a client asks of the service, apart from queries. -/
inductive FileRequest
  | create (path : SharePath)
  | delete (path : SharePath)
  | call (c : Call)
  deriving DecidableEq

namespace FileRequest

def path : FileRequest → SharePath
  | .create path => path
  | .delete path => path
  | .call c => c.path

/-- What is answered: for a deletion whether there was a file. -/
@[reducible] def Reply : FileRequest → Type
  | .create _ => Unit
  | .delete _ => Bool
  | .call c => Except TransportError c.Answer

/-- What a request does to the file that it is about, and the answer. -/
def serve (now : Instant) : (r : FileRequest) → Option FileState → r.Reply × Option FileState
  | .create _, file => ((), some (file.getD (.created now)))
  | .delete _, file => (file.isSome, none)
  | .call _, none => (.error Service.notFound, none)
  | .call c, some f =>
    match Service.serve now f c with
    | .error e => (.error e, some f)
    | .ok (answer, f) => (.ok answer, some f)

end FileRequest

structure Arrival where
  request : FileRequest
  now : Instant
  deriving DecidableEq

def Arrival.path (a : Arrival) : SharePath :=
  a.request.path

def Arrival.leave (a : Arrival) (file : Option FileState) : Option FileState :=
  (a.request.serve a.now file).2

namespace Store

def respond (s : Store) (a : Arrival) : a.request.Reply × Store :=
  match a with
  | ⟨.create path, now⟩ => ((), s.create now path)
  | ⟨.delete path, _⟩ => s.delete path
  | ⟨.call c, now⟩ => s.answer now c

def reply (s : Store) (a : Arrival) : a.request.Reply :=
  (s.respond a).1

def after (s : Store) (as : List Arrival) : Store :=
  as.foldl (fun s a => (s.respond a).2) s

@[simp] theorem after_cons (s : Store) (a : Arrival) (as : List Arrival) :
    s.after (a :: as) = (s.respond a).2.after as := rfl

variable {s : Store} {p : SharePath}

theorem put_self (s : Store) (p : SharePath) : s.put p (s.files p) = s := by
  have same : (fun q => if q = p then s.files p else s.files q) = s.files := by
    funext q
    split
    · rename_i h
      rw [h]
    · rfl
  rw [put, same]

/-- A request is served from the file that it is about, and changes no other. -/
theorem respond_eq (idle : s.timeoutPending = false) (a : Arrival) :
    s.respond a = ((a.request.serve a.now (s.files a.path)).1,
      s.put a.path (a.leave (s.files a.path))) := by
  obtain ⟨request, now⟩ := a
  cases request with
  | create path =>
    show ((), s.create now path) = ((), s.put path (some ((s.files path).getD (.created now))))
    cases hf : s.files path with
    | none => simp [create, hf]
    | some f =>
      have same : s.put path (some f) = s := hf ▸ put_self s path
      simp [create, hf, same]
  | delete path => rfl
  | call c =>
    show s.answer now c = ((FileRequest.serve now (.call c) (s.files c.path)).1,
      s.put c.path (FileRequest.serve now (.call c) (s.files c.path)).2)
    cases hf : s.files c.path with
    | none =>
      have same : s.put c.path none = s := hf ▸ put_self s c.path
      simp [answer, idle, FileRequest.serve, hf, same]
    | some f =>
      have same : s.put c.path (some f) = s := hf ▸ put_self s c.path
      cases hs : Service.serve now f c with
      | error e => simp [answer, idle, FileRequest.serve, hf, hs, same]
      | ok served => simp [answer, idle, FileRequest.serve, hf, hs]

theorem respond_idle (idle : s.timeoutPending = false) (a : Arrival) :
    (s.respond a).2.timeoutPending = false := by
  rw [respond_eq idle]
  exact idle

theorem respond_files (idle : s.timeoutPending = false) (a : Arrival) (p : SharePath) :
    (s.respond a).2.files p = if a.path = p then a.leave (s.files p) else s.files p := by
  rw [respond_eq idle]
  by_cases h : a.path = p
  · subst h
    simp [put]
  · simp [put, h, Ne.symm h]

/-- The answer depends on the file that is asked about alone. -/
theorem reply_congr {t : Store} (idle : s.timeoutPending = false) (idle' : t.timeoutPending = false)
    {a : Arrival} (same : s.files a.path = t.files a.path) : s.reply a = t.reply a := by
  rw [reply, reply, respond_eq idle, respond_eq idle', same]

theorem after_idle (idle : s.timeoutPending = false) (as : List Arrival) :
    (s.after as).timeoutPending = false := by
  induction as generalizing s with
  | nil => exact idle
  | cons a as ih => exact ih (respond_idle idle a)

/-- A file is what the requests about it have made of it. -/
theorem after_files (idle : s.timeoutPending = false) (as : List Arrival) (p : SharePath) :
    (s.after as).files p =
      (as.filter (·.path = p)).foldl (fun file a => a.leave file) (s.files p) := by
  induction as generalizing s with
  | nil => rfl
  | cons a as ih =>
    rw [after_cons, ih (respond_idle idle a), respond_files idle]
    by_cases h : a.path = p
    · simp [h]
    · simp [h]

theorem after_files_congr (idle : s.timeoutPending = false) {as bs : List Arrival}
    (same : as.filter (·.path = p) = bs.filter (·.path = p)) :
    (s.after as).files p = (s.after bs).files p := by
  rw [after_files idle, after_files idle, same]

theorem reply_after_congr (idle : s.timeoutPending = false) {as bs : List Arrival} {a : Arrival}
    (same : as.filter (·.path = a.path) = bs.filter (·.path = a.path)) :
    (s.after as).reply a = (s.after bs).reply a :=
  reply_congr (after_idle idle as) (after_idle idle bs) (after_files_congr idle same)

end Store

variable {α : Type}

def firstOf (mix : List (α ⊕ α)) : List α :=
  mix.filterMap Sum.getLeft?

def secondOf (mix : List (α ⊕ α)) : List α :=
  mix.filterMap Sum.getRight?

def merged (mix : List (α ⊕ α)) : List α :=
  mix.map (Sum.elim id id)

variable {mix : List (α ⊕ α)} {q : α → Bool}

theorem firstOf_append (mix more : List (α ⊕ α)) :
    firstOf (mix ++ more) = firstOf mix ++ firstOf more := List.filterMap_append

theorem secondOf_append (mix more : List (α ⊕ α)) :
    secondOf (mix ++ more) = secondOf mix ++ secondOf more := List.filterMap_append

/-- What only the first client can send is in the merged list as in the list of the first. -/
theorem filter_merged_first (h : ∀ y ∈ secondOf mix, ¬ q y = true) :
    (merged mix).filter q = (firstOf mix).filter q := by
  induction mix with
  | nil => rfl
  | cons a mix ih =>
    cases a with
    | inl x =>
      show (x :: merged mix).filter q = (x :: firstOf mix).filter q
      rw [List.filter_cons, List.filter_cons, ih h]
    | inr y =>
      obtain ⟨hy, h⟩ := List.forall_mem_cons.mp h
      show (y :: merged mix).filter q = (firstOf mix).filter q
      rw [List.filter_cons_of_neg hy, ih h]

theorem firstOf_swap (mix : List (α ⊕ α)) : firstOf (mix.map Sum.swap) = secondOf mix := by
  induction mix with
  | nil => rfl
  | cons a mix ih =>
    cases a with
    | inl x => exact ih
    | inr y => exact congrArg (y :: ·) ih

theorem secondOf_swap (mix : List (α ⊕ α)) : secondOf (mix.map Sum.swap) = firstOf mix := by
  induction mix with
  | nil => rfl
  | cons a mix ih =>
    cases a with
    | inl x => exact congrArg (x :: ·) ih
    | inr y => exact ih

theorem merged_swap (mix : List (α ⊕ α)) : merged (mix.map Sum.swap) = merged mix := by
  rw [merged, List.map_map, merged]
  exact List.map_congr_left fun a _ => by cases a <;> rfl

theorem filter_merged_second (h : ∀ x ∈ firstOf mix, ¬ q x = true) :
    (merged mix).filter q = (secondOf mix).filter q := by
  rw [← merged_swap, ← firstOf_swap]
  exact filter_merged_first (secondOf_swap mix ▸ h)

/-- What only one of the clients can send is in the merged list as in the lists of both. -/
theorem filter_merged (apart : ∀ x ∈ firstOf mix, q x = true → ∀ y ∈ secondOf mix, ¬ q y = true) :
    (merged mix).filter q = (firstOf mix ++ secondOf mix).filter q := by
  rw [List.filter_append]
  by_cases sent : ∃ x ∈ firstOf mix, q x = true
  · obtain ⟨x, hx, qx⟩ := sent
    have none := apart x hx qx
    rw [filter_merged_first none, List.filter_eq_nil_iff.mpr none, List.append_nil]
  · have none : ∀ x ∈ firstOf mix, ¬ q x = true := fun x hx qx => sent ⟨x, hx, qx⟩
    rw [filter_merged_second none, List.filter_eq_nil_iff.mpr none, List.nil_append]

namespace Store

variable {s : Store}

theorem eq_of_files {t : Store} (pending : s.timeoutPending = t.timeoutPending)
    (files : ∀ p, s.files p = t.files p) : s = t := by
  obtain ⟨f, b⟩ := s
  obtain ⟨g, c⟩ := t
  obtain rfl : b = c := pending
  obtain rfl : f = g := funext files
  rfl

/-- Two clients whose files are different, in whatever order their requests arrive: all answers
and the files at the end are as if the second client had waited until the first was done. -/
theorem answers_as_in_sequence (idle : s.timeoutPending = false) (first second : List Arrival)
    (apart : ∀ x ∈ first, ∀ y ∈ second, x.path ≠ y.path) (mix : List (Arrival ⊕ Arrival))
    (hf : firstOf mix = first) (hs : secondOf mix = second) :
    s.after (merged mix) = s.after (first ++ second) ∧
    (∀ before x rest, mix = before ++ .inl x :: rest →
      first = firstOf before ++ x :: firstOf rest ∧
      (s.after (merged before)).reply x = (s.after (firstOf before)).reply x) ∧
    ∀ before y rest, mix = before ++ .inr y :: rest →
      second = secondOf before ++ y :: secondOf rest ∧
      (s.after (merged before)).reply y = (s.after (first ++ secondOf before)).reply y := by
  subst hf hs
  refine ⟨?_, ?_, ?_⟩
  · refine eq_of_files ?_ fun p => after_files_congr idle (filter_merged ?_)
    · rw [after_idle idle, after_idle idle]
    · intro x hx here y hy there
      exact apart x hx y hy ((of_decide_eq_true here).trans (of_decide_eq_true there).symm)
  · rintro before x rest rfl
    rw [firstOf_append, secondOf_append] at apart
    refine ⟨firstOf_append _ _, reply_after_congr idle (filter_merged_first fun y hy here => ?_)⟩
    exact apart x (List.mem_append_right _ (.head _)) y (List.mem_append_left _ hy)
      (of_decide_eq_true here).symm
  · rintro before y rest rfl
    rw [firstOf_append, secondOf_append] at apart
    -- the first client is done in one of the two runs only, but nothing of it is about this file
    have none : ∀ x ∈ firstOf before ++ firstOf (.inr y :: rest),
        ¬ decide (x.path = y.path) = true := fun x hx here =>
      apart x hx y (List.mem_append_right _ (.head _)) (of_decide_eq_true here)
    have none' : ∀ x ∈ firstOf before, ¬ decide (x.path = y.path) = true := fun x hx =>
      none x (List.mem_append_left _ hx)
    refine ⟨secondOf_append _ _, reply_after_congr idle ?_⟩
    rw [filter_merged_second none', firstOf_append, List.filter_append,
      List.filter_eq_nil_iff.mpr none, List.nil_append]

/-- One client looks for a file in vain and then makes it, while the other gets a lease. -/
theorem answers_as_in_sequence_of_two :
    let f : SharePath := ⟨"share", "f"⟩
    let g : SharePath := ⟨"share", "g"⟩
    let a := "aaaaaaaa-aaaa-4aaa-8aaa-aaaaaaaaaaaa"
    let ask : Arrival := ⟨.call (.acquire f none .infinite a), ⟨3, 0⟩⟩
    let mix : List (Arrival ⊕ Arrival) :=
      [.inr ⟨.call (.break g none), ⟨9, 0⟩⟩, .inl ⟨.create f, ⟨1, 0⟩⟩, .inr ⟨.create g, ⟨2, 0⟩⟩,
        .inl ask, .inr ⟨.call (.acquire g none .infinite a), ⟨0, 0⟩⟩]
    empty.after (merged mix) = empty.after (firstOf mix ++ secondOf mix) ∧
      (empty.after (merged (mix.take 3))).reply ask =
        (empty.after [⟨.create f, ⟨1, 0⟩⟩]).reply ask := by
  intro f g a ask mix
  have apart : ∀ x ∈ firstOf mix, ∀ y ∈ secondOf mix, x.path ≠ y.path := by decide
  obtain ⟨whole, first, -⟩ := answers_as_in_sequence (s := empty) rfl _ _ apart mix rfl rfl
  exact ⟨whole, (first (mix.take 3) ask (mix.drop 4) rfl).2⟩

end Store
end FileLease
