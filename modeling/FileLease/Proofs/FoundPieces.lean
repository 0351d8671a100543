import FileLease.Proofs.NumeralWidths
import FileLease.Text.Taken

/-!
# Pieces found at the front of a text

What a reader finds is told by a value and by the rest of the text, whatever comes in the rest.
-/
namespace FileLease.Text

/-- A value is found, and the rest of the text behind it. -/
def Finds {m : Type → Type} [Pure m] {least : Nat} {s : List Char} {α : Type}
    (found : m (Taken least s α)) (value : α) (rest : List Char) : Prop :=
  ∃ h, found = pure ⟨value, rest, h⟩

/-- What comes of a piece that is found. -/
theorem Finds.bind {m : Type → Type} [Monad m] [LawfulMonad m] {least least' : Nat}
    {s s' : List Char} {α β : Type} {found : m (Taken least s α)} {a : α} {b : β}
    {rest rest' : List Char} {f : Taken least s α → m (Taken least' s' β)}
    (first : Finds found a rest) (next : ∀ h, Finds (f ⟨a, rest, h⟩) b rest') :
    Finds (found >>= f) b rest' := by
  obtain ⟨h, first⟩ := first
  rw [first, pure_bind]
  exact next h

variable {p : Char → Bool} {front tail : List Char}

theorem takeWhile_run (run : ∀ c ∈ front, p c = true) (stop : tail.head?.all (! p ·) = true) :
    (front ++ tail).takeWhile p = front := by
  have none : tail.takeWhile p = [] := by
    cases tail with
    | nil => rfl
    | cons c rest => exact List.takeWhile_cons_of_neg (by simpa using stop)
  rw [List.takeWhile_append_of_pos run, none, List.append_nil]

theorem dropWhile_run (run : ∀ c ∈ front, p c = true) (stop : tail.head?.all (! p ·) = true) :
    (front ++ tail).dropWhile p = tail := by
  rw [List.dropWhile_append_of_pos run]
  cases tail with
  | nil => rfl
  | cons c rest => exact List.dropWhile_cons_of_neg (by simpa using stop)

theorem dropWhile_front (run : ∀ c ∈ front, p c = true) (stop : ∀ c ∈ tail.head?, p c = false) :
    (front ++ tail).dropWhile p = tail :=
  dropWhile_run run (by simpa [Option.all_eq_true] using stop)

/-- Every text begins with a run, which may be empty. -/
theorem exists_run (p : Char → Bool) (s : List Char) :
    ∃ front, (∀ c ∈ front, p c = true) ∧ s = front ++ s.dropWhile p :=
  ⟨s.takeWhile p, List.all_eq_true.mp List.all_takeWhile, List.takeWhile_append_dropWhile.symm⟩

/-- What is in front of a sign is a run of other characters. -/
theorem run_of_not_mem {sep : Char} {s : List Char} (away : sep ∉ s) :
    ∀ c ∈ s, decide (c ≠ sep) = true :=
  fun _ hc => decide_eq_true fun same => away (same ▸ hc)

/-- A run ends before the first character that does not belong to it. -/
theorem takeRun_eq (run : ∀ c ∈ front, p c = true) (stop : tail.head?.all (! p ·) = true) :
    ∃ h, takeRun p (front ++ tail) = ⟨front, tail, h⟩ := by
  have value := takeWhile_run run stop
  have rest := dropWhile_run run stop
  refine ⟨by simp, ?_⟩
  unfold takeRun
  congr

/-- What is stripped off a text stands before and behind what is left. -/
theorem exists_strip (p : Char → Bool) (s : List Char) : ∃ front back,
    (∀ c ∈ front, p c = true) ∧ (∀ c ∈ back, p c = true) ∧ s = front ++ (strip p s ++ back) := by
  obtain ⟨front, run, whole⟩ := exists_run p s
  obtain ⟨back, run', rest⟩ := exists_run p (s.dropWhile p).reverse
  have rest : s.dropWhile p = strip p s ++ back.reverse := by
    have turned := congrArg List.reverse rest
    rwa [List.reverse_reverse, List.reverse_append] at turned
  exact ⟨front, back.reverse, run, by simpa using run', by rwa [← rest]⟩

theorem strip_eq_nil_iff {s : List Char} : strip p s = [] ↔ ∀ c ∈ s, p c = true := by
  constructor
  · intro none
    obtain ⟨front, back, run, run', whole⟩ := exists_strip p s
    rw [none, List.nil_append] at whole
    rw [whole]
    exact List.forall_mem_append.mpr ⟨run, run'⟩
  · intro all
    have gone : (s ++ []).dropWhile p = [] := dropWhile_front all (by simp)
    rw [List.append_nil] at gone
    rw [strip, gone]
    rfl

/-- A text without such characters is what is left when they stand around it. -/
theorem strip_between {s back : List Char} (run : ∀ c ∈ front, p c = true)
    (run' : ∀ c ∈ back, p c = true) (other : ∀ c ∈ s, p c = false) (ne : s ≠ []) :
    strip p (front ++ (s ++ back)) = s := by
  have first : ∀ c ∈ (s ++ back).head?, p c = false := fun c hc => by
    rw [List.head?_append, Option.or_of_isSome (List.isSome_head?.mpr ne)] at hc
    exact other c (List.mem_of_mem_head? hc)
  have last : ∀ c ∈ s.reverse.head?, p c = false := fun c hc =>
    other c (List.mem_reverse.mp (List.mem_of_mem_head? hc))
  rw [strip, dropWhile_front run first, stripEnd, List.reverse_append,
    dropWhile_front (by simpa using run') last, List.reverse_reverse]

/-- No separator is left in the pieces. -/
theorem not_separator_of_mem_splitOnP {s piece : List Char} (h : piece ∈ s.splitOnP p) :
    ∀ c ∈ piece, p c = false := by
  induction s generalizing piece with
  | nil =>
    obtain rfl : piece = [] := by simpa using h
    exact List.forall_mem_nil _
  | cons d s ih =>
    rw [List.splitOnP_cons_eq_if_modifyHead] at h
    cases hd : p d with
    | true =>
      rw [hd, if_pos rfl] at h
      rcases List.mem_cons.mp h with rfl | h
      · exact List.forall_mem_nil _
      · exact ih h
    | false =>
      obtain ⟨first, rest, split⟩ := List.exists_cons_of_ne_nil (List.splitOnP_ne_nil p s)
      rw [hd, if_neg Bool.false_ne_true, split, List.modifyHead_cons] at h
      rw [split] at ih
      rcases List.mem_cons.mp h with rfl | h
      · exact List.forall_mem_cons.mpr ⟨hd, ih List.mem_cons_self⟩
      · exact ih (List.mem_cons_of_mem first h)

/-- What is split is the separators and what stands between them. -/
theorem mem_splitOn (sep : Char) {c : Char} {s : List Char} (h : c ∈ s) :
    c = sep ∨ ∃ part ∈ s.splitOn sep, c ∈ part := by
  induction s with
  | nil => cases h
  | cons d s ih =>
    rw [List.splitOn_cons_eq_if_modifyHead]
    by_cases hd : d = sep
    · rcases List.mem_cons.mp h with rfl | h
      · exact .inl hd
      · obtain rfl | ⟨part, hp, hc⟩ := ih h
        · exact .inl rfl
        · exact .inr ⟨part, by simp [hd, hp], hc⟩
    · obtain ⟨first, rest, hs⟩ := List.exists_cons_of_ne_nil (List.splitOn_ne_nil sep s)
      simp only [beq_iff_eq, hd, if_false, hs, List.modifyHead_cons]
      rw [hs] at ih
      rcases List.mem_cons.mp h with rfl | h
      · exact .inr ⟨c :: first, List.mem_cons_self, List.mem_cons_self⟩
      · obtain rfl | ⟨part, hp, hc⟩ := ih h
        · exact .inl rfl
        · rcases List.mem_cons.mp hp with rfl | hp
          · exact .inr ⟨d :: part, List.mem_cons_self, List.mem_cons_of_mem d hc⟩
          · exact .inr ⟨part, List.mem_cons_of_mem _ hp, hc⟩

/-- What is behind the last separator. -/
theorem exists_last_piece (sep : Char) (s : List Char) :
    ∃ piece, sep ∉ piece ∧ (s = piece ∨ ∃ before, s = before ++ sep :: piece) := by
  by_cases h : sep ∈ s
  · obtain ⟨last, front, whole, away⟩ := List.eq_append_cons_of_mem (List.mem_reverse.mpr h)
    refine ⟨last.reverse, by simpa using away, .inr ⟨front.reverse, ?_⟩⟩
    have whole := congrArg List.reverse whole
    simpa using whole
  · exact ⟨s, h, .inl rfl⟩

theorem getLast?_splitOn {sep : Char} {piece : List Char} (away : sep ∉ piece)
    (before : List Char) : ((before ++ sep :: piece).splitOn sep).getLast? = some piece := by
  rw [List.splitOn_append_cons_self, List.splitOn_eq_singleton away, List.getLast?_concat]

end FileLease.Text
