import FileLease.Proofs.FoundPieces
import FileLease.Proofs.SharePaths

/-!
# The file that a URL names

The path of a URL is that of the service, then the share and the names on the way to the file, each
encoded as one segment. Nothing is lost: the names are read back, so different files have different
URLs, even when names hold slashes, percent signs or marks of other parts of a URL.
-/
namespace FileLease.Url
open Text

def endsSegment (c : Char) : Bool :=
  c = '/' || c = '?'

variable {path xs ys : List (List Char)} {x y rest rest' : List Char}

/-- What ends a segment is encoded within it. -/
theorem endsSegment_encode (s : List Char) :
    Clear endsSegment (percentEncode inSegmentSet s) := by
  refine clear_encode (fun c _ out => ?_) rfl (by decide)
  simp_all [endsSegment, inSegmentSet, inPathSet]

theorem takeWhile_segment (hx : ∀ c ∈ x, endsSegment c = false)
    (ends : rest.head?.all endsSegment = true) :
    (x ++ rest).takeWhile (! endsSegment ·) = x :=
  takeWhile_run (fun c hc => by simp [hx c hc]) (by simpa using ends)

theorem head_pathText (path : List (List Char)) (rest : List Char) :
    (pathText path ++ '?' :: rest).head?.all endsSegment = true := by
  cases path <;> rfl

/-- A path is read off the text of a URL with a query, segment by segment. -/
theorem pathText_injective (hx : ∀ s ∈ xs, ∀ c ∈ s, endsSegment c = false)
    (hy : ∀ s ∈ ys, ∀ c ∈ s, endsSegment c = false)
    (same : pathText xs ++ '?' :: rest = pathText ys ++ '?' :: rest') : xs = ys := by
  induction xs generalizing ys with
  | nil =>
    cases ys with
    | nil => rfl
    | cons y ys => cases same
  | cons x xs ih =>
    cases ys with
    | nil => cases same
    | cons y ys =>
      have tail : x ++ (pathText xs ++ '?' :: rest) = y ++ (pathText ys ++ '?' :: rest') := by
        simpa [pathText] using same
      obtain ⟨hx, hxs⟩ := List.forall_mem_cons.mp hx
      obtain ⟨hy, hys⟩ := List.forall_mem_cons.mp hy
      -- after a segment comes a slash or the query, so it is read up to the first of these
      have first : x = y := by
        rw [← takeWhile_segment hx (head_pathText xs rest), tail,
          takeWhile_segment hy (head_pathText ys rest')]
      subst first
      rw [ih hxs hys (List.append_cancel_left tail)]

/-- A name that is a segment of its own: no dots, and nothing in it that does not count in URLs. -/
def Nameable (s : String) : Prop :=
  s ≠ "." ∧ s ≠ ".." ∧ ∀ a ∈ s.toList, isIgnored a = false

instance (s : String) : Decidable (Nameable s) :=
  have := List.decidableBAll (isIgnored · = false) s.toList
  inferInstanceAs (Decidable (_ ∧ _ ∧ _))

def segmentOf (name : String) : List Char :=
  percentEncode inSegmentSet name.toList

theorem segmentOf_injective {name other : String} (h : segmentOf name = segmentOf other) :
    name = other :=
  String.toList_inj.mp (percentEncode_injective reversible_inSegmentSet h)

theorem Nameable.not_dots {s : String} (h : Nameable s) : ¬ Dots s.toList := by
  rintro (same | same)
  · exact h.1 (String.toList_inj.mp same)
  · exact h.2.1 (String.toList_inj.mp same)

theorem pushSegment_name {s : String} (h : Nameable s) (path : List (List Char)) :
    pushSegment path s.toList = (if path = [[]] then [] else path) ++ [segmentOf s] :=
  pushSegment_plain h.not_dots h.2.2 path

/-- Names go to the end of a path that has a segment with a name already. -/
theorem foldl_pushSegment_names {names : List String} (h : ∀ s ∈ names, Nameable s)
    (ne : path ≠ []) (ne' : path ≠ [[]]) :
    (names.map String.toList).foldl pushSegment path = path ++ names.map segmentOf := by
  induction names generalizing path with
  | nil => simp
  | cons s names ih =>
    obtain ⟨hs, h⟩ := List.forall_mem_cons.mp h
    have longer : path ++ [segmentOf s] ≠ [[]] := by simp [List.append_eq_singleton_iff, ne, ne']
    rw [List.map_cons, List.foldl_cons, pushSegment_name hs, if_neg ne',
      ih h (by simp) longer, List.append_assoc]
    rfl

end FileLease.Url

namespace FileLease.Http
open Text Url

def namesOf (p : SharePath) : List String :=
  p.segments.filter (! ·.isEmpty)

structure Addressable (p : SharePath) : Prop where
  share_ne : p.share ≠ ""
  share : Nameable p.share
  names : ∀ s ∈ p.segments, Nameable s

variable {c : Client} {p q : SharePath}

/-- The path of a file: that of the service, and a segment for each name. -/
theorem filePath_names (h : ∀ s ∈ c.serviceUrl.path.dropLast, s ≠ []) (hp : Addressable p) :
    c.filePath p = filled c.serviceUrl.path ++ (p.share :: namesOf p).map segmentOf := by
  have below : ∀ s ∈ namesOf p, Nameable s := fun s hs => hp.names s (List.mem_of_mem_filter hs)
  have ne : filled c.serviceUrl.path ++ [segmentOf p.share] ≠ [[]] := atShare_ne hp.share_ne _
  rw [Client.filePath, pushSegment_name hp.share, popEmpty_eq h, ← namesOf,
    foldl_pushSegment_names below (by simp) ne, List.append_assoc]
  rfl

def origin (u : Url) : List Char :=
  u.scheme.text ++ [':', '/', '/'] ++ u.userinfoText ++ u.host.text ++ u.portText

theorem characters_leaseUrl (c : Client) (p : SharePath) (timeout : Option UInt32) :
    (c.leaseUrl p timeout).characters = origin c.serviceUrl ++ (pathText (c.filePath p) ++
      '?' :: (c.leaseQuery timeout ++ markedText '#' c.serviceUrl.fragment)) := by
  simp [Url.characters, Client.leaseUrl, origin, userinfoText, portText, markedText]

theorem names_of_text (h : ∀ s ∈ c.serviceUrl.path.dropLast, s ≠ []) (hp : Addressable p)
    (hq : Addressable q) {timeout timeout' : Option UInt32}
    (same : (c.leaseUrl p timeout).text = (c.leaseUrl q timeout').text) :
    (p.share :: namesOf p).map segmentOf = (q.share :: namesOf q).map segmentOf := by
  have same := String.ofList_injective same
  rw [characters_leaseUrl, characters_leaseUrl] at same
  have same := List.append_cancel_left same
  rw [filePath_names h hp, filePath_names h hq, pathText, pathText, List.flatMap_append,
    List.flatMap_append, List.append_assoc, List.append_assoc] at same
  have closed : ∀ names : List String, ∀ s ∈ names.map segmentOf, ∀ c ∈ s,
      endsSegment c = false := by
    intro names s hs
    obtain ⟨name, -, rfl⟩ := List.mem_map.mp hs
    exact endsSegment_encode name.toList
  exact pathText_injective (closed _) (closed _) (List.append_cancel_left same)

/-- Decoded, the path of a URL is that of the service, the share as one segment and the names on the
way to the file, whatever characters they have. So files with different shares or names have URLs
with different texts, whatever the timeouts. -/
theorem leaseUrl_names (c : Client) (h : ∀ s ∈ c.serviceUrl.path.dropLast, s ≠ [])
    (p : SharePath) (hp : Addressable p) (timeout : Option UInt32) :
    (c.leaseUrl p timeout).path.map decoded =
      (filled c.serviceUrl.path).map decoded ++ bytesOf p.share :: (namesOf p).map bytesOf ∧
    ∀ q, Addressable q → ∀ timeout',
      (c.leaseUrl p timeout).text = (c.leaseUrl q timeout').text →
      p.share = q.share ∧ namesOf p = namesOf q := by
  have read : decoded ∘ segmentOf = bytesOf := funext decoded_share
  constructor
  · rw [leaseUrl_path, filePath_names h hp, List.map_append, List.map_map, read, List.map_cons]
  · intro q hq timeout' same
    have names := (List.map_inj_right fun _ _ => segmentOf_injective).mp
      (names_of_text h hp hq same)
    exact List.cons.inj names

/-- The slash is in the name of the share, or between the share and the next name; one name has a
percent sign in it. -/
theorem leaseUrl_names_of_slashes :
    let p : SharePath := .of "a/b" "/c?//d%2Fe#/"
    let q : SharePath := .of "a" "b/c?/d%2Fe#"
    Addressable p ∧ Addressable q ∧
      (Client.loopback.leaseUrl p none).path.map decoded = ["a/b", "c?", "d%2Fe#"].map bytesOf ∧
      (Client.loopback.leaseUrl p none).text ≠ (Client.loopback.leaseUrl q (some 5)).text := by
  intro p q
  have hp : Addressable p := ⟨by decide, by decide, by decide +kernel⟩
  have hq : Addressable q := ⟨by decide, by decide, by decide +kernel⟩
  have named : namesOf p = ["c?", "d%2Fe#"] := by decide +kernel
  obtain ⟨path, injective⟩ := leaseUrl_names .loopback (by decide) p hp none
  refine ⟨hp, hq, ?_, fun same => ?_⟩
  · rw [path, named]
    rfl
  · have share : p.share ≠ q.share := by decide
    exact share (injective q hq (some 5) same).1

end FileLease.Http
