import FileLease.Handle
import FileLease.Proofs.FoundPieces
import Mathlib.Data.List.DropRight

/-!
# Ways to a file

A place below a share is named piece by piece, and slashes at the ends of a piece do not count. All
ways that name the same pieces lead to the same place, whose path has no slash at either end. Only a
last piece of nothing but slashes leaves one at the end, if there is a path in front of it.
-/
namespace FileLease.SharePath
open Text

variable {p : SharePath} {s : String} {c : Char}

/-- A piece of a path in which there is nothing but slashes. -/
def Nameless (s : String) : Prop :=
  ∀ c ∈ s.toList, c = '/'

instance (s : String) : Decidable (Nameless s) :=
  List.decidableBAll (· = '/') s.toList

def Trimmed (s : String) : Prop :=
  s.toList.head? ≠ some '/' ∧ s.toList.getLast? ≠ some '/'

instance (s : String) : Decidable (Trimmed s) :=
  inferInstanceAs (Decidable (_ ∧ _))

theorem toList_trimSlashes (s : String) : (trimSlashes s).toList = strip isSlash s.toList :=
  String.toList_ofList

theorem isSlash_eq_false (h : c ≠ '/') : isSlash c = false := by
  simp [isSlash, h]

theorem trimmed_trimSlashes (s : String) : Trimmed (trimSlashes s) := by
  rw [Trimmed, toList_trimSlashes]
  exact ⟨fun h => absurd (head?_strip h) (by decide),
    fun h => absurd (getLast?_strip h) (by decide)⟩

theorem trimSlashes_of_trimmed (h : Trimmed s) : trimSlashes s = s := by
  have front (c : Char) (hc : s.toList.head? = some c) : isSlash c = false :=
    isSlash_eq_false fun same => h.1 (same ▸ hc)
  have last (c : Char) (hc : s.toList.getLast? = some c) : isSlash c = false :=
    isSlash_eq_false fun same => h.2 (same ▸ hc)
  rw [trimSlashes, strip_eq_self front last, String.ofList_toList]

theorem trimSlashes_eq_empty_iff : trimSlashes s = "" ↔ Nameless s := by
  rw [← String.toList_inj, toList_trimSlashes, String.toList_empty, strip_eq_nil_iff]
  simp [Nameless, isSlash]

theorem normal_iff : p.Normal ↔ Trimmed p.path := by
  constructor
  · intro h
    have same : trimSlashes p.path = p.path := congrArg SharePath.path h
    rw [← same]
    exact trimmed_trimSlashes p.path
  · intro h
    rw [Normal, of, trimSlashes_of_trimmed h]

theorem join_of_empty (h : p.path = "") (s : String) : p.join s = ⟨p.share, trimSlashes s⟩ := by
  simp [join, h]

theorem join_of_path (h : p.path ≠ "") (s : String) :
    p.join s = ⟨p.share, p.path ++ "/" ++ trimSlashes s⟩ := by
  simp [join, h]

theorem join_path_eq_empty_iff : (p.join s).path = "" ↔ p.path = "" ∧ Nameless s := by
  by_cases h : p.path = ""
  · simp [join_of_empty h, h, trimSlashes_eq_empty_iff]
  · simp [join_of_path h, h]

theorem head?_join (h : p.path.toList.head? ≠ some '/') (s : String) :
    (p.join s).path.toList.head? ≠ some '/' := by
  by_cases he : p.path = ""
  · rw [join_of_empty he]
    exact (trimmed_trimSlashes s).1
  · obtain ⟨c, rest, hc⟩ := List.exists_cons_of_ne_nil (fun none => he (String.toList_inj.mp none) :
      p.path.toList ≠ [])
    rw [join_of_path he]
    simpa [hc] using h

/-- A slash is left at the end by a piece that is nameless, below a path. -/
theorem getLast?_join : (p.join s).path.toList.getLast? = some '/' ↔ p.path ≠ "" ∧ Nameless s := by
  have last := (trimmed_trimSlashes s).2
  by_cases he : p.path = ""
  · simpa [join_of_empty he, he] using last
  · rw [join_of_path he, ← trimSlashes_eq_empty_iff]
    by_cases hs : trimSlashes s = ""
    · simp [hs, he]
    · have ne : (trimSlashes s).toList ≠ [] := fun none => hs (String.toList_inj.mp none)
      obtain ⟨front, c, hc⟩ := List.eq_nil_or_concat _ |>.resolve_left ne
      have whole : (p.path ++ "/" ++ trimSlashes s).toList =
          p.path.toList ++ '/' :: front ++ [c] := by
        simp [hc]
      rw [whole, List.getLast?_concat]
      simpa [hs, hc] using last

theorem foldl_join_eq_empty_iff (pieces : List String) : (pieces.foldl join p).path = "" ↔
    p.path = "" ∧ ∀ s ∈ pieces, Nameless s := by
  induction pieces generalizing p with
  | nil => simp
  | cons s pieces ih =>
    rw [List.foldl_cons, ih, join_path_eq_empty_iff, List.forall_mem_cons, and_assoc]

theorem head?_foldl_join (h : p.path.toList.head? ≠ some '/') (pieces : List String) :
    (pieces.foldl join p).path.toList.head? ≠ some '/' := by
  induction pieces generalizing p with
  | nil => exact h
  | cons s pieces ih => exact ih (head?_join h s)

/-- Below a path, pieces are added with slashes between them. -/
theorem foldl_join_of_path (h : p.path ≠ "") (pieces : List String) :
    pieces.foldl join p = ⟨p.share, "/".intercalate (p.path :: pieces.map trimSlashes)⟩ := by
  induction pieces generalizing p with
  | nil => simp
  | cons s pieces ih =>
    have longer : (p.join s).path ≠ "" := fun none => h (join_path_eq_empty_iff.mp none).1
    rw [List.foldl_cons, ih longer, join_of_path h, List.map_cons, String.intercalate_cons_cons,
      String.intercalate_cons_append]

/-- The last piece is nameless, and one before it is not. -/
def EndsNameless (pieces : List String) : Prop :=
  ∃ front last, pieces = front ++ [last] ∧ Nameless last ∧ ∃ s ∈ front, ¬ Nameless s

theorem endsNameless_concat (front : List String) (last : String) :
    EndsNameless (front ++ [last]) ↔ Nameless last ∧ ∃ s ∈ front, ¬ Nameless s := by
  constructor
  · rintro ⟨front', last', same, ends⟩
    obtain ⟨rfl, rfl⟩ := List.append_inj' same rfl |>.imp_right List.singleton_inj.mp
    exact ends
  · exact fun ends => ⟨front, last, rfl, ends⟩

theorem not_endsNameless_singleton (s : String) : ¬ EndsNameless [s] :=
  (endsNameless_concat [] s).not.mpr (by simp)

theorem trimmed_of (share path : String) : Trimmed (SharePath.of share path).path :=
  trimmed_trimSlashes path

theorem of_path_eq_empty_iff (share path : String) :
    (SharePath.of share path).path = "" ↔ Nameless path :=
  trimSlashes_eq_empty_iff

theorem getLast?_foldl_join (share path : String) (pieces : List String) :
    (pieces.foldl join (.of share path)).path.toList.getLast? = some '/' ↔
      EndsNameless (path :: pieces) := by
  rcases List.eq_nil_or_concat pieces with rfl | ⟨front, last, rfl⟩
  · exact iff_of_false (trimmed_of share path).2 (not_endsNameless_singleton path)
  · have named : ¬ (Nameless path ∧ ∀ s ∈ front, Nameless s) ↔
        ∃ s ∈ path :: front, ¬ Nameless s := by
      rw [← List.forall_mem_cons]
      simp only [not_forall, exists_prop]
    rw [List.concat_eq_append, List.foldl_append, List.foldl_cons, List.foldl_nil, getLast?_join,
      Ne, foldl_join_eq_empty_iff, of_path_eq_empty_iff, named, ← List.cons_append,
      endsNameless_concat, and_comm]

/-- Nothing is in front of the pieces that follow a nameless one. -/
theorem endsNameless_cons (h : Nameless s) (pieces : List String) :
    EndsNameless (s :: pieces) ↔ EndsNameless pieces := by
  rcases List.eq_nil_or_concat pieces with rfl | ⟨front, last, rfl⟩
  · refine iff_of_false (not_endsNameless_singleton s) ?_
    rintro ⟨front, last, none, -⟩
    simp at none
  · rw [List.concat_eq_append, ← List.cons_append, endsNameless_concat, endsNameless_concat]
    simp [h]

end FileLease.SharePath

namespace FileLease
open SharePath Text

def Share.directoryAt (s : Share) : List String → Directory
  | [] => s.root
  | name :: names => names.foldl Directory.subdirectory (s.directory name)

def Share.fileAt (s : Share) (names : List String) (name : String) : File :=
  match names with
  | [] => s.file name
  | _ :: _ => (s.directoryAt names).file name

theorem foldl_subdirectory_path (d : Directory) (names : List String) :
    (names.foldl Directory.subdirectory d).path = names.foldl join d.path := by
  induction names generalizing d with
  | nil => rfl
  | cons name names ih => exact ih (d.subdirectory name)

theorem directoryAt_path (s : Share) (names : List String) :
    (s.directoryAt names).path = names.foldl join s.path := by
  cases names with
  | nil => rfl
  | cons name names => exact foldl_subdirectory_path (s.directory name) names

theorem fileAt_path (s : Share) (names : List String) (name : String) :
    (s.fileAt names name).path = (names ++ [name]).foldl join s.path := by
  rw [List.foldl_append, ← directoryAt_path s names]
  cases names with
  | nil => rfl
  | cons _ _ => rfl

namespace SharePath

/-- No place begins with a slash, and it is in its normal form unless it ends in one. That is so
exactly if the last piece which led there is nameless, and one before it is not. -/
theorem foldl_join_normal_iff (share path : String) (pieces : List String) :
    let place := pieces.foldl join (.of share path)
    let root := Share.named share
    place.path.toList.head? ≠ some '/' ∧
    (place.Normal ↔ place.path.toList.getLast? ≠ some '/') ∧
    (place.Normal ↔ ¬ EndsNameless (path :: pieces)) ∧
    ((root.directoryAt pieces).path.Normal ↔ ¬ EndsNameless pieces) ∧
    ∀ name, (root.fileAt pieces name).path.Normal ↔ ¬ EndsNameless (pieces ++ [name]) := by
  intro place root
  have front (path : String) (pieces : List String) :=
    head?_foldl_join (trimmed_of share path).1 pieces
  have normal (path : String) (pieces : List String) :
      (pieces.foldl join (.of share path)).Normal ↔ ¬ EndsNameless (path :: pieces) := by
    rw [normal_iff, Trimmed, and_iff_right (front path pieces), Ne, getLast?_foldl_join]
  have top : Nameless "" := by decide
  refine ⟨front path pieces, ?_, normal path pieces, ?_, fun name => ?_⟩
  · rw [normal_iff, Trimmed, and_iff_right (front path pieces)]
  · rw [directoryAt_path, ← endsNameless_cons top]
    exact normal "" pieces
  · rw [fileAt_path, ← endsNameless_cons top]
    exact normal "" (pieces ++ [name])

/-- The empty name below a directory. -/
theorem not_normal_of_empty_name :
    let place := (SharePath.of "share" "docs").join ""
    place.path = "docs/" ∧ ¬ place.Normal ∧
      ¬ ((Share.named "share").fileAt ["docs"] "").path.Normal := by
  decide

/-- Pieces that all name something are the path, with slashes between them. -/
theorem foldl_join_of_named (share : String) {names : List String} (ne : names ≠ [])
    (named : ∀ s ∈ names, ¬ Nameless s) :
    names.foldl join (.of share "") = ⟨share, "/".intercalate (names.map trimSlashes)⟩ := by
  obtain ⟨first, rest, rfl⟩ := List.exists_cons_of_ne_nil ne
  have path : trimSlashes first ≠ "" :=
    fun none => named first List.mem_cons_self (trimSlashes_eq_empty_iff.mp none)
  have top : (SharePath.of share "").path = "" := (of_path_eq_empty_iff share "").mpr (by decide)
  rw [List.foldl_cons, join_of_empty top, foldl_join_of_path path]
  rfl

/-- A path made of names is in its normal form. -/
theorem trimmed_intercalate {names : List String} (named : ∀ s ∈ names, ¬ Nameless s) :
    Trimmed ("/".intercalate (names.map trimSlashes)) := by
  rcases List.eq_nil_or_concat names with rfl | ⟨front, last, rfl⟩
  · decide
  · rw [List.concat_eq_append] at named ⊢
    have ends : ¬ EndsNameless ("" :: (front ++ [last])) := by
      rw [endsNameless_cons (by decide), endsNameless_concat]
      exact fun h => named last (by simp) h.1
    have place := foldl_join_of_named "" (by simp) named
    have first := head?_foldl_join (trimmed_of "" "").1 (front ++ [last])
    have back := (getLast?_foldl_join "" "" (front ++ [last])).not.mpr ends
    rw [place] at first back
    exact ⟨first, back⟩

/-- The name of a place is what is behind the last slash of the last piece. -/
theorem name_spec (share : String) {path last : String}
    (ends : path = last ∨ ∃ before, path = before ++ "/" ++ last) :
    '/' ∉ (SharePath.mk share path).name.toList ∧
      (last = (SharePath.mk share path).name ∨
        ∃ before, last = before ++ "/" ++ (SharePath.mk share path).name) := by
  obtain ⟨piece, away, whole⟩ := exists_last_piece '/' last.toList
  have found : (path.toList.splitOn '/').getLast? = some piece := by
    obtain rfl | ⟨before, rfl⟩ := ends
    · obtain rfl | ⟨before, whole⟩ := whole
      · rw [List.splitOn_eq_singleton away]
        rfl
      · rw [whole, getLast?_splitOn away]
    · have text : (before ++ "/" ++ last).toList = before.toList ++ '/' :: last.toList := by simp
      rw [text]
      obtain rfl | ⟨front, whole⟩ := whole
      · exact getLast?_splitOn away _
      · rw [whole, ← List.cons_append, ← List.append_assoc, getLast?_splitOn away]
  have name : (SharePath.mk share path).name = String.ofList piece := by
    simp [SharePath.name, segments, found]
  rw [name]
  refine ⟨by simpa using away, ?_⟩
  obtain whole | ⟨before, whole⟩ := whole
  · exact .inl (by rw [← whole, String.ofList_toList])
  · refine .inr ⟨String.ofList before, ?_⟩
    rw [← String.toList_inj, whole]
    simp

theorem intercalate_concat (pieces : List String) (last : String) :
    "/".intercalate (pieces ++ [last]) = last ∨
      ∃ before, "/".intercalate (pieces ++ [last]) = before ++ "/" ++ last := by
  cases pieces with
  | nil => exact .inl String.intercalate_singleton
  | cons first rest =>
    refine .inr ⟨"/".intercalate (first :: rest), ?_⟩
    rw [String.intercalate_append_of_ne_nil (by simp) (by simp), String.intercalate_singleton]

/-- A handle is for the place of the endpoint that it is bound to. -/
theorem endpoint_of_bind {r : Resource} {leaseId : Option String} {fresh : String} {h : Handle}
    (bound : Handle.bind r leaseId fresh = .ok h) : r.endpoint = some h.path := by
  unfold Handle.bind at bound
  split at bound
  · cases bound
  · rename_i path endpoint
    split at bound
    · cases bound
      exact endpoint
    · split at bound
      · cases bound
      · cases bound
        exact endpoint

/-- All routes to a file lead to the same place: through directories, by joining piece after piece,
and by naming the whole path at once. Its lease calls and handles are for that place, and its name
is what is behind the last slash of the last piece. -/
theorem routes_agree (share : String) (names : List String) (name : String)
    (named : ∀ s ∈ names ++ [name], ¬ Nameless s) :
    let path := "/".intercalate ((names ++ [name]).map trimSlashes)
    let place := SharePath.of share path
    let file := (Share.named share).fileAt names name
    file.path = place ∧
    (names ++ [name]).foldl join (.of share "") = place ∧
    ((Share.named share).file path).path = place ∧
    file.resource.endpoint = some place ∧
    (∀ leaseId fresh h, Handle.bind file.resource leaseId fresh = .ok h → h.path = place) ∧
    (∀ fresh, Handle.bind file.resource none fresh = .ok ⟨fresh, none, place⟩) ∧
    '/' ∉ file.name.toList ∧
    (trimSlashes name = file.name ∨
      ∃ before, trimSlashes name = before ++ "/" ++ file.name) := by
  intro path place file
  have top : (SharePath.of share "").path = "" := (of_path_eq_empty_iff share "").mpr (by decide)
  have whole : place = ⟨share, path⟩ := by
    rw [show place = ⟨share, trimSlashes path⟩ from rfl,
      trimSlashes_of_trimmed (trimmed_intercalate named)]
  have joined : (names ++ [name]).foldl join (.of share "") = place := by
    rw [foldl_join_of_named share (by simp) named, whole]
  have led : file.path = place := by
    rw [show file.path = _ from fileAt_path (.named share) names name]
    exact joined
  have ends : path = trimSlashes name ∨ ∃ before, path = before ++ "/" ++ trimSlashes name := by
    have split : path = "/".intercalate (names.map trimSlashes ++ [trimSlashes name]) := by
      simp only [path, List.map_append, List.map_singleton]
    rw [split]
    exact intercalate_concat (names.map trimSlashes) (trimSlashes name)
  have endpoint : file.resource.endpoint = some place := congrArg some led
  refine ⟨led, joined, ?_, endpoint, fun leaseId fresh h bound => ?_, fun fresh => ?_, ?_⟩
  · exact join_of_empty top path
  · exact (Option.some.inj (endpoint.symm.trans (endpoint_of_bind bound))).symm
  · rw [Handle.bind, endpoint]
  · rw [show file.name = place.name from congrArg SharePath.name led, whole]
    exact name_spec share ends

/-- Slashes at the ends of the pieces do not count, those inside are part of the path. -/
theorem routes_agree_with_slashes :
    let names := ["/logs", "a//b/"]
    let file := (Share.named "data").fileAt names "//c/d.log"
    (∀ s ∈ names ++ ["//c/d.log"], ¬ Nameless s) ∧
      file.path = .of "data" "logs/a//b/c/d.log" ∧
      (["/logs", "a//b/", "//c/d.log"].foldl join (.of "data" "")) = file.path ∧
      file.name = "d.log" := by
  intro names file
  have named : ∀ s ∈ names ++ ["//c/d.log"], ¬ Nameless s := by decide
  obtain ⟨led, joined, -⟩ := routes_agree "data" names "//c/d.log" named
  refine ⟨named, by decide +kernel, joined.trans led.symm, by decide +kernel⟩

end SharePath
end FileLease
