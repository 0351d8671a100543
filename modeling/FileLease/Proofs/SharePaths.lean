import FileLease.Proofs.PercentCoding
import FileLease.Proofs.RedirectChains

/-!
# Files below their share

The segments of a file's path go below the share one by one, and none of those that follow takes
away what is above the last segment. Only the first can take the share away: two dots with tabs or
ends of lines among them, which do not count until it is too late.
-/
namespace FileLease.Url
open Text

abbrev Dots (s : List Char) : Prop :=
  s = ['.'] ∨ s = ['.', '.']

/-- A segment that is two dots, but only without what is ignored in URLs. -/
def Climbs (s : List Char) : Prop :=
  s ≠ ['.', '.'] ∧ s.filter (! isIgnored ·) = ['.', '.']

/-- A path in which further segments leave `segment`, and all before it, where they are: there are
segments after it, or it is empty, or it names a drive. -/
def Stays (above : List (List Char)) (segment : List Char) (path : List (List Char)) : Prop :=
  ∃ below, path = above ++ segment :: below ∧
    (below ≠ [] ∨ segment = [] ∨ isDriveLetter segment = true)

variable {above path : List (List Char)} {segment s : List Char}

theorem shorten_concat (path : List (List Char)) (last : List Char) :
    shorten (path ++ [last]) = if isDriveLetter last = true then path ++ [last] else path := by
  simp only [shorten, List.getLast?_concat, Option.any_some, List.dropLast_concat]

theorem pushSegment_dots (path : List (List Char)) (h : Dots s) : pushSegment path s = path := by
  rw [pushSegment, if_pos h]

theorem pushSegment_climbs (h : Climbs s) (path : List (List Char)) :
    pushSegment path s = shorten (if path = [[]] then [] else path) ++ [[]] := by
  have away : ¬ Dots s := by
    rintro (rfl | same)
    · exact absurd h.2 (by decide)
    · exact h.1 same
  have dots : isDoubleDot (percentEncode inSegmentSet ['.', '.']) = true := by decide
  rw [pushSegment, if_neg away, h.2, finish, dots, Bool.true_or, if_pos rfl, enter, if_pos dots]

/-- Other segments than dots are added at the end, if only as empty ones. -/
theorem pushSegment_other (dots : ¬ Dots s) (h : ¬ Climbs s) (path : List (List Char)) :
    ∃ last, pushSegment path s = (if path = [[]] then [] else path) ++ [last] := by
  have away : isDoubleDot (percentEncode inSegmentSet (s.filter (! isIgnored ·))) = false := by
    rw [← Bool.not_eq_true, isDoubleDot_encode]
    exact fun same => h ⟨fun same' => dots (.inr same'), same⟩
  rw [pushSegment, if_neg dots, finish, away, Bool.false_or]
  split
  · rename_i dot
    rw [enter, away, if_neg Bool.false_ne_true, if_pos dot]
    exact ⟨_, rfl⟩
  · exact ⟨_, rfl⟩

theorem Stays.shorten (stays : Stays above segment path) :
    Stays above segment (shorten path ++ [[]]) := by
  obtain ⟨below, rfl, fixed⟩ := stays
  rcases List.eq_nil_or_concat below with rfl | ⟨front, last, rfl⟩
  -- the segment itself is the last: it stays for the name of a drive, or is replaced by its like
  · rw [shorten_concat]
    split
    · exact ⟨[[]], by simp, .inl (by simp)⟩
    · rename_i drive
      obtain rfl : segment = [] := by simpa [drive] using fixed
      exact ⟨[], rfl, .inr (.inl rfl)⟩
  · rw [List.concat_eq_append, ← List.cons_append, ← List.append_assoc, shorten_concat]
    split
    · exact ⟨front ++ [last, []], by simp, .inl (by simp)⟩
    · exact ⟨front ++ [[]], by simp, .inl (by simp)⟩

theorem Stays.pushSegment (stays : Stays above segment path) (ne : above ++ [segment] ≠ [[]])
    (s : List Char) : Stays above segment (pushSegment path s) := by
  by_cases dots : Dots s
  · rwa [pushSegment_dots path dots]
  have longer : path ≠ [[]] := by
    obtain ⟨below, rfl, -⟩ := stays
    intro same
    obtain ⟨rfl, rest⟩ | ⟨rfl, rest⟩ := List.append_eq_singleton_iff.mp same
    · cases rest
      exact ne rfl
    · cases rest
  by_cases climbs : Climbs s
  · rw [pushSegment_climbs climbs, if_neg longer]
    exact stays.shorten
  · obtain ⟨last, pushed⟩ := pushSegment_other dots climbs path
    obtain ⟨below, rfl, -⟩ := stays
    rw [pushed, if_neg longer]
    exact ⟨below ++ [last], by simp, .inl (by simp)⟩

theorem Stays.foldl (stays : Stays above segment path) (ne : above ++ [segment] ≠ [[]])
    (segments : List (List Char)) :
    Stays above segment (segments.foldl Url.pushSegment path) := by
  induction segments generalizing path with
  | nil => exact stays
  | cons s segments ih => exact ih (stays.pushSegment ne s)

def filled (path : List (List Char)) : List (List Char) :=
  path.filter (! ·.isEmpty)

theorem popEmpty_concat (front : List (List Char)) (last : List Char) :
    popEmpty (front ++ [last]) = if last = [] ∧ front ≠ [] then front else front ++ [last] := by
  simp [popEmpty]

/-- Where a segment is pushed to, if only the last segment of a path may be empty. -/
theorem popEmpty_eq (h : ∀ s ∈ path.dropLast, s ≠ []) :
    (if popEmpty path = [[]] then [] else popEmpty path) = filled path := by
  rcases List.eq_nil_or_concat path with rfl | ⟨front, last, rfl⟩
  · rfl
  · rw [List.concat_eq_append] at h ⊢
    rw [List.dropLast_concat] at h
    have kept : front.filter (! ·.isEmpty) = front :=
      List.filter_eq_self.mpr fun s hs => by simpa using h s hs
    have away : front ≠ [[]] := by
      rintro rfl
      exact h [] (.head []) rfl
    rw [popEmpty_concat, filled, List.filter_append, kept]
    by_cases empty : last = []
    · subst empty
      by_cases top : front = []
      · subst top
        rfl
      · simp [top, away]
    · simp [empty, List.append_eq_singleton_iff]

/-- A segment that is not ignored in part, and no dots, is pushed as it is. -/
theorem pushSegment_plain (dots : ¬ Dots s) (plain : ∀ a ∈ s, isIgnored a = false)
    (path : List (List Char)) : pushSegment path s =
      (if path = [[]] then [] else path) ++ [percentEncode inSegmentSet s] := by
  have kept : s.filter (! isIgnored ·) = s := List.filter_eq_self.mpr fun a ha => by
    simp [plain a ha]
  have doubleDot : ¬ isDoubleDot (percentEncode inSegmentSet s) = true := by
    rw [isDoubleDot_encode]
    exact fun same => dots (.inr same)
  have dot : ¬ isDot (percentEncode inSegmentSet s) = true := by
    rw [isDot_encode]
    exact fun same => dots (.inl same)
  rw [pushSegment, if_neg dots, kept, finish, if_neg (by simp [doubleDot, dot])]

/-- Dots count for nothing. -/
theorem foldl_pushSegment_dots (segments path : List (List Char)) :
    (segments.filter fun s => ¬ Dots s).foldl pushSegment path =
      segments.foldl pushSegment path := by
  induction segments generalizing path with
  | nil => rfl
  | cons s segments ih =>
    by_cases dots : Dots s
    · rw [List.foldl_cons, pushSegment_dots path dots, ← ih,
        List.filter_cons_of_neg (by simpa [or_iff_not_imp_left] using dots)]
    · rw [List.foldl_cons, ← ih, List.filter_cons_of_pos (by simpa using dots)]
      rfl

end FileLease.Url

namespace FileLease.Http
open Text Url

/-- The segments that lead from the share to a file: neither empty nor dots. -/
def steps (path : SharePath) : List (List Char) :=
  ((path.segments.filter (! ·.isEmpty)).map String.toList).filter fun s => ¬ Dots s

/-- The segments of the service, and then the share, are the first ones of a URL. -/
def Below (c : Client) (share : String) (url : Url) : Prop :=
  (filled c.serviceUrl.path).map decoded ++ [bytesOf share] <+: url.path.map decoded

def atShare (above : List (List Char)) (share : String) : List (List Char) :=
  above ++ [percentEncode inSegmentSet share.toList]

variable {c : Client} {share : String}

theorem leaseUrl_path (c : Client) (p : SharePath) (timeout : Option UInt32) :
    (c.leaseUrl p timeout).path = c.filePath p := by
  rfl

theorem filePath_eq (h : ∀ s ∈ c.serviceUrl.path.dropLast, s ≠ [])
    (dots : share ≠ "." ∧ share ≠ "..") (plain : ∀ a ∈ share.toList, isIgnored a = false)
    (path : String) : c.filePath (.of share path) =
      (steps (.of share path)).foldl pushSegment (atShare (filled c.serviceUrl.path) share) := by
  have away : ¬ Dots share.toList := by
    rintro (same | same)
    · exact dots.1 (String.toList_inj.mp same)
    · exact dots.2 (String.toList_inj.mp same)
  rw [Client.filePath, SharePath.of, pushSegment_plain away plain, popEmpty_eq h, ← atShare,
    steps, foldl_pushSegment_dots]

theorem not_dots_of_mem_steps {p : SharePath} {s : List Char} (h : s ∈ steps p) : ¬ Dots s := by
  have kept := (List.mem_filter.mp h).2
  exact of_decide_eq_true kept

theorem decoded_share (share : String) :
    decoded (percentEncode inSegmentSet share.toList) = bytesOf share := by
  rw [decoded_encode reversible_inSegmentSet, bytesOf_eq]

theorem decoded_atShare (above : List (List Char)) (share : String) :
    (atShare above share).map decoded = above.map decoded ++ [bytesOf share] := by
  rw [atShare, List.map_append, List.map_singleton, decoded_share]

/-- The name of a share is not empty when it is encoded. -/
theorem atShare_ne (ne : share ≠ "") (above : List (List Char)) : atShare above share ≠ [[]] := by
  intro same
  obtain ⟨-, empty⟩ | ⟨-, empty⟩ := List.append_eq_singleton_iff.mp same
  · have none := percentEncode_injective reversible_inSegmentSet (t := []) (List.cons.inj empty).1
    exact ne (String.toList_inj.mp none)
  · cases empty

variable {above path : List (List Char)}

theorem prefix_of_stays
    (stays : Stays above (percentEncode inSegmentSet share.toList) path) :
    above.map decoded ++ [bytesOf share] <+: path.map decoded := by
  obtain ⟨below, rfl, -⟩ := stays
  refine ⟨below.map decoded, ?_⟩
  simp [decoded_share]

theorem not_prefix_of_stays_nil (ne : share ≠ "") (stays : Stays above [] path) :
    ¬ above.map decoded ++ [bytesOf share] <+: path.map decoded := by
  obtain ⟨below, rfl, -⟩ := stays
  intro sub
  rw [List.map_append, List.prefix_append_right_inj] at sub
  obtain ⟨same, -⟩ := List.cons_prefix_cons.mp sub
  rw [bytesOf_eq] at same
  exact ne (String.toList_inj.mp (encode_injective (t := []) same))

theorem prefix_foldl_of_drive (ne : share ≠ "") (drive : isDriveLetter share.toList = true)
    (above segments : List (List Char)) :
    above.map decoded ++ [bytesOf share] <+:
      (segments.foldl pushSegment (atShare above share)).map decoded := by
  have stays : Stays above (percentEncode inSegmentSet share.toList) (atShare above share) :=
    ⟨[], rfl, .inr (.inr (by rw [isDriveLetter_encode, drive]))⟩
  exact prefix_of_stays (stays.foldl (atShare_ne ne above) segments)

/-- The path that segments lead to from the share begins with the share unless the first climbs. -/
theorem prefix_foldl_of_not_climbs (ne : share ≠ "") {first : List Char} (dots : ¬ Dots first)
    (climbs : ¬ Climbs first) (above rest : List (List Char)) :
    above.map decoded ++ [bytesOf share] <+:
      ((first :: rest).foldl pushSegment (atShare above share)).map decoded := by
  obtain ⟨last, pushed⟩ := pushSegment_other dots climbs (atShare above share)
  rw [if_neg (atShare_ne ne above)] at pushed
  have stays : Stays above (percentEncode inSegmentSet share.toList)
      (pushSegment (atShare above share) first) :=
    ⟨[last], by rw [pushed, atShare]; simp, .inl (by simp)⟩
  exact prefix_of_stays (stays.foldl (atShare_ne ne above) rest)

/-- A first segment that climbs takes the share away. If there is something above it, no other
segments lead back. -/
theorem prefix_foldl_of_climbs (ne : share ≠ "") (drive : isDriveLetter share.toList = false)
    {first : List Char} (climbs : Climbs first) (above rest : List (List Char)) :
    above.map decoded ++ [bytesOf share] <+:
      ((first :: rest).foldl pushSegment (atShare above share)).map decoded ↔
    above = [] ∧ [bytesOf share] <+: (rest.foldl pushSegment [[]]).map decoded := by
  rw [List.foldl_cons, pushSegment_climbs climbs, if_neg (atShare_ne ne above), atShare,
    shorten_concat, isDriveLetter_encode, drive, if_neg Bool.false_ne_true]
  cases above with
  | nil => simp
  | cons a above =>
    -- the empty segment in the place of the share stays there
    have stays : Stays (a :: above) [] (a :: above ++ [[]]) := ⟨[], rfl, .inr (.inl rfl)⟩
    have away : a :: above ++ [[]] ≠ [[]] := by simp
    exact iff_of_false (not_prefix_of_stays_nil ne (stays.foldl away rest)) (by simp)

/-- The path of a file is below its share exactly if the first of the steps to it does not climb, or
the share is named like a drive. Otherwise it is where the other steps lead from the top of the
service, and that is the share again only if there is nothing above it, and they name it. -/
theorem leaseUrl_below_iff (c : Client) (h : ∀ s ∈ c.serviceUrl.path.dropLast, s ≠ [])
    (share : String) (ne : share ≠ "") (dots : share ≠ "." ∧ share ≠ "..")
    (plain : ∀ a ∈ share.toList, isIgnored a = false) (path : String) (timeout : Option UInt32) :
    Below c share (c.leaseUrl (.of share path) timeout) ↔
      isDriveLetter share.toList = true ∨
      ∀ first rest, steps (.of share path) = first :: rest → Climbs first →
        filled c.serviceUrl.path = [] ∧
        [bytesOf share] <+: (rest.foldl pushSegment [[]]).map decoded := by
  have place := filePath_eq h dots plain path
  rw [Below, leaseUrl_path, place]
  cases drive : isDriveLetter share.toList with
  | true => exact iff_of_true (prefix_foldl_of_drive ne drive _ _) (.inl rfl)
  | false =>
    rw [or_iff_right Bool.false_ne_true]
    cases led : steps (.of share path) with
    | nil =>
      refine iff_of_true ?_ nofun
      rw [List.foldl_nil, decoded_atShare]
    | cons first rest =>
      have mem : first ∈ steps (.of share path) := led ▸ .head rest
      have none := not_dots_of_mem_steps mem
      by_cases climbs : Climbs first
      · rw [prefix_foldl_of_climbs ne drive climbs]
        constructor
        · rintro below _ _ ⟨⟩ -
          exact below
        · exact fun below => below first rest rfl climbs
      · refine iff_of_true (prefix_foldl_of_not_climbs ne none climbs _ _) ?_
        rintro _ _ ⟨⟩ climbs'
        exact absurd climbs' climbs

/-- Once there is a segment below the share, it is safe to climb. -/
theorem leaseUrl_below_of_later_climbs :
    let url := Client.loopback.leaseUrl (.of "share" "a/.\t./.\n./b") none
    url.text = "http://127.0.0.1/share//b?comp=lease" ∧ Below Client.loopback "share" url := by
  have plain : "share".toList.any isIgnored = false := by decide
  refine ⟨by decide +kernel, ?_⟩
  refine (leaseUrl_below_iff .loopback (by decide) "share" (by decide) (by decide)
    (by simpa using plain) "a/.\t./.\n./b" none).mpr (.inr fun first rest led climbs => ?_)
  have led' : steps (.of "share" "a/.\t./.\n./b") =
      [['a'], ['.', '\t', '.'], ['.', '\n', '.'], ['b']] := by decide +kernel
  rw [led'] at led
  obtain ⟨rfl, -⟩ := List.cons.inj led
  exact absurd climbs.2 (by decide)

/-- The first segment is two dots around a tab: the URL is that of a file of another share. -/
theorem leaseUrl_of_other_share :
    let settings := { Settings.default with accountUrl := "http://127.0.0.1" }
    ∃ c, Client.ofSettings settings = .ok c ∧
      (c.leaseUrl (.of "share" ".\t./other/f") none).text =
        "http://127.0.0.1/other/f?comp=lease" ∧
      ¬ Below c "share" (c.leaseUrl (.of "share" ".\t./other/f") none) := by
  refine ⟨.loopback, ofSettings_loopback, by decide +kernel, ?_⟩
  unfold Below
  decide +kernel

end FileLease.Http
