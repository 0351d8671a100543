import FileLease.Command
import FileLease.Proofs.ShareRoutes

/-!
# Arguments that name files

An argument names a file if slashes are left in it once those at its ends are gone: what is in front
of the first is the share. The text of the file is an argument that names it again.
-/
namespace FileLease.Command
open Text SharePath

variable {argument : String} {p : SharePath}

def unnamed (argument : String) : ConfigError :=
  .invalid ("file must be given as share/path, got " ++ quoted argument)

theorem fileOf_of_not_mem (none : '/' ∉ (trimSlashes argument).toList) :
    fileOf argument = .error (unnamed argument) := by
  have rest : (trimSlashes argument).toList.dropWhile (· ≠ '/') = [] :=
    List.dropWhile_eq_nil_iff.mpr (run_of_not_mem none)
  simp only [fileOf, rest, List.drop_nil, List.isEmpty_nil, or_true, if_true, unnamed]

/-- The argument is cut at its first slash. -/
theorem fileOf_of_split {share path : List Char} (away : '/' ∉ share)
    (text : (trimSlashes argument).toList = share ++ '/' :: path) :
    fileOf argument = .ok (.of (String.ofList share) (String.ofList path)) := by
  have stop : ('/' :: path).head?.all (fun c => ! decide (c ≠ '/')) = true := by simp
  have front := takeWhile_run (run_of_not_mem away) stop
  have rest := dropWhile_run (run_of_not_mem away) stop
  obtain ⟨first, last⟩ := trimmed_trimSlashes argument
  rw [text] at first last
  -- a cut at either end would leave a slash there
  have share_ne : share ≠ [] := by
    rintro rfl
    exact first rfl
  have path_ne : path ≠ [] := by
    rintro rfl
    exact last List.getLast?_concat
  simp only [fileOf, text, front, rest, List.drop_one, List.tail_cons, List.isEmpty_iff, share_ne,
    path_ne, or_self, if_false]

theorem exists_split (h : '/' ∈ (trimSlashes argument).toList) :
    ∃ share path, '/' ∉ share ∧ (trimSlashes argument).toList = share ++ '/' :: path := by
  obtain ⟨share, path, text, away⟩ := List.eq_append_cons_of_mem h
  exact ⟨share, path, away, text⟩

theorem fileOf_eq_error_iff {e : ConfigError} : fileOf argument = .error e ↔
    '/' ∉ (trimSlashes argument).toList ∧ e = unnamed argument := by
  by_cases h : '/' ∈ (trimSlashes argument).toList
  · obtain ⟨share, path, away, text⟩ := exists_split h
    simp [fileOf_of_split away text, h]
  · simp [fileOf_of_not_mem h, h, eq_comm]

structure Filed (p : SharePath) : Prop where
  share : p.share ≠ ""
  away : '/' ∉ p.share.toList
  path : p.path ≠ ""
  trimmed : Trimmed p.path

theorem filed_of_fileOf (named : fileOf argument = .ok p) : Filed p := by
  by_cases h : '/' ∈ (trimSlashes argument).toList
  · obtain ⟨share, path, away, text⟩ := exists_split h
    obtain ⟨first, last⟩ := trimmed_trimSlashes argument
    rw [text] at first last
    rw [fileOf_of_split away text] at named
    cases named
    refine ⟨fun none => ?_, by simpa [SharePath.of] using away, fun none => ?_, trimmed_of _ _⟩
    · have empty : share = [] := String.ofList_injective none
      subst empty
      exact first rfl
    · -- a path of slashes alone would end in one
      have slashes := (of_path_eq_empty_iff _ _).mp none
      rw [Nameless, String.toList_ofList] at slashes
      obtain ⟨c, ends⟩ : ∃ c, ('/' :: path).getLast? = some c :=
        ⟨_, List.getLast?_eq_some_getLast (List.cons_ne_nil _ _)⟩
      have slash : c = '/' := by
        rcases List.mem_cons.mp (List.mem_of_mem_getLast? ends) with same | mem
        · exact same
        · exact slashes c mem
      rw [List.getLast?_append, ends, slash] at last
      exact last rfl
  · rw [fileOf_of_not_mem h] at named
    cases named

theorem display_toList (path : p.path ≠ "") :
    p.display.toList = p.share.toList ++ '/' :: p.path.toList := by
  simp [display, path]

theorem trimmed_display (filed : Filed p) : Trimmed p.display := by
  have share_ne : p.share.toList ≠ [] := fun none => filed.share (String.toList_inj.mp none)
  have path_ne : p.path.toList ≠ [] := fun none => filed.path (String.toList_inj.mp none)
  rw [Trimmed, display_toList filed.path]
  constructor
  · intro first
    rw [List.head?_append_of_ne_nil _ share_ne] at first
    exact filed.away (List.mem_of_head? first)
  · intro last
    rw [List.getLast?_append_of_ne_nil _ (List.cons_ne_nil _ _),
      List.getLast?_cons_of_ne_nil path_ne] at last
    exact filed.trimmed.2 last

/-- The text of a file names the file. -/
theorem fileOf_display (filed : Filed p) : fileOf p.display = .ok p := by
  have text : (trimSlashes p.display).toList = p.share.toList ++ '/' :: p.path.toList := by
    rw [trimSlashes_of_trimmed (trimmed_display filed), display_toList filed.path]
  have normal : SharePath.of p.share p.path = p := normal_iff.mpr filed.trimmed
  rw [fileOf_of_split filed.away text, String.ofList_toList, String.ofList_toList, normal]

/-- An argument names no file exactly if it has no slash but at its ends. The file that it names has
a share and a path, which the text of the file names as well. So does the text of every file below a
share without slashes. -/
theorem fileOf_read_back :
    (∀ argument e, fileOf argument = .error e ↔
      '/' ∉ (trimSlashes argument).toList ∧ e = unnamed argument) ∧
    (∀ argument p, fileOf argument = .ok p →
      (p.share ≠ "" ∧ '/' ∉ p.share.toList ∧ p.path ≠ "" ∧ Trimmed p.path) ∧
      fileOf p.display = .ok p) ∧
    ∀ share path, share ≠ "" → '/' ∉ share.toList → (SharePath.of share path).path ≠ "" →
      fileOf (SharePath.of share path).display = .ok (.of share path) := by
  refine ⟨fun argument e => fileOf_eq_error_iff, fun argument p named => ?_,
    fun share path share_ne away path_ne => ?_⟩
  · have filed := filed_of_fileOf named
    exact ⟨⟨filed.share, filed.away, filed.path, filed.trimmed⟩, fileOf_display filed⟩
  · exact fileOf_display ⟨share_ne, away, path_ne, trimmed_of share path⟩

/-- Slashes before the share, behind it and at the end do not count, others are kept. -/
theorem fileOf_read_back_of_slashes :
    fileOf "//data///a//b/" = .ok ⟨"data", "a//b"⟩ ∧
      fileOf "data/a//b" = .ok ⟨"data", "a//b"⟩ ∧
      (SharePath.of "data" "/c/").display = "data/c" ∧
      fileOf "data/c" = .ok ⟨"data", "c"⟩ := by
  have named : fileOf "//data///a//b/" = .ok ⟨"data", "a//b"⟩ := by decide +kernel
  obtain ⟨-, back, text⟩ := fileOf_read_back
  refine ⟨named, (back _ _ named).2, by decide +kernel, ?_⟩
  exact text "data" "/c/" (by decide) (by decide) (by decide +kernel)

end FileLease.Command
