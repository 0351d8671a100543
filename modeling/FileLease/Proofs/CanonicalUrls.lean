import FileLease.Proofs.FoundPieces
import FileLease.Proofs.PercentCoding
import FileLease.Proofs.ServiceRuns
import FileLease.Url.Reader

/-!
# What the parts of URLs hold

In a URL that is read no part holds what separates it from the next, and no segment of its path is
a dot or two. The port is not written if it is that of the scheme, nor is an empty password.
-/
namespace FileLease.Url
open Text

variable {c : Char} {s : List Char}

structure Segment (s : List Char) : Prop where
  clear : Clear inPathSet s
  slashes : Clear isSlash s
  dot : isDot s = false
  doubleDot : isDoubleDot s = false

def isForbiddenWithin (c : Char) : Bool :=
  isForbidden c && c ≠ ':'

inductive HostText : List Char → Prop
  | plain {s : List Char} (ne : s ≠ []) (clear : Clear isForbidden s) : HostText s
  | bracketed {s : List Char} (clear : Clear isForbiddenWithin s) : HostText ('[' :: s ++ [']'])

/-- A URL of encoded parts, in which nothing is written that goes without saying. -/
structure Canonical (u : Url) : Prop where
  username : Clear inUserinfoSet u.username
  password : ∀ p, u.password = some p → p ≠ [] ∧ Clear inUserinfoSet p
  host : HostText u.host.text
  port : u.port ≠ some u.scheme.defaultPort
  path_ne : u.path ≠ []
  path : ∀ s ∈ u.path, Segment s
  query : ∀ q, u.query = some q → Clear inQuerySet q
  fragment : ∀ f, u.fragment = some f → Clear inFragmentSet f

theorem clear_intercalate {set : Char → Bool} {sep : Char} (hsep : set sep = false)
    {pieces : List (List Char)} (h : ∀ s ∈ pieces, Clear set s) :
    Clear set ([sep].intercalate pieces) := by
  induction pieces with
  | nil => exact List.forall_mem_nil _
  | cons s pieces ih =>
    obtain ⟨hs, h⟩ := List.forall_mem_cons.mp h
    cases pieces with
    | nil => rwa [List.intercalate_singleton]
    | cons t pieces =>
      rw [List.intercalate_cons_cons]
      exact clear_append.mpr ⟨clear_append.mpr ⟨hs, by simpa [Clear] using hsep⟩, ih h⟩

theorem hostText_ipv4 (address : UInt32) : HostText (Host.ipv4 address).text := by
  refine .plain ?_ (clear_intercalate rfl ?_)
  · rw [Host.text, ipv4Text, List.map_cons, List.map_cons, List.intercalate_cons_cons]
    simp
  · intro s hs
    obtain ⟨n, -, rfl⟩ := List.mem_map.mp hs
    exact clear_decimal (by decide) n

theorem clear_hex (n : Nat) : Clear isForbiddenWithin (hex n) := by
  have all : ∀ k < 16, isForbiddenWithin (Nat.digitChar k) = false := by decide
  intro c hc
  obtain ⟨k, hk, rfl⟩ := digit_of_mem_hex hc
  exact all k hk

theorem hostText_ipv6 (pieces : List Nat) : HostText (Host.ipv6 pieces).text := by
  have colons (pieces : List Nat) : Clear isForbiddenWithin (colonText pieces) := by
    refine clear_intercalate rfl fun s hs => ?_
    obtain ⟨n, -, rfl⟩ := List.mem_map.mp hs
    exact clear_hex n
  refine .bracketed ?_
  unfold ipv6Text
  split
  · exact colons pieces
  · exact clear_append.mpr ⟨clear_append.mpr ⟨colons _, by decide⟩, colons _⟩

theorem clear_of_checked? {s name : List Char} (h : checked? s = some name) :
    Clear isForbidden name := by
  unfold checked? at h
  split at h
  · cases h
  · rename_i none
    cases h
    simpa [Clear] using none

theorem clear_of_domainToAscii? {s name : List Char} (h : domainToAscii? s = some name) :
    Clear isForbidden name := by
  unfold domainToAscii? at h
  dsimp only at h
  split at h
  · exact clear_of_checked? h
  · obtain ⟨labels, -, h⟩ := Option.bind_eq_some_iff.mp h
    obtain ⟨written, -, h⟩ := Option.bind_eq_some_iff.mp h
    exact clear_of_checked? h

/-- The host of a URL that is read can be written in it. -/
theorem hostText_of_readHost {s : List Char} {host : Host} (h : readHost s = .ok host) :
    HostText host.text := by
  cases host with
  | ipv4 address => exact hostText_ipv4 address
  | ipv6 pieces => exact hostText_ipv6 pieces
  | domain name =>
    unfold readHost at h
    split at h
    · unfold readBracketed at h
      split at h
      · split at h <;> cases h
      · cases h
    · split at h
      · cases h
      · cases h
      · rename_i found ne read
        split at h
        · split at h <;> cases h
        · cases h
          obtain ⟨decoded, -, read⟩ := Option.bind_eq_some_iff.mp read
          exact .plain (fun none => ne none) (clear_of_domainToAscii? read)

theorem segment_nil : Segment [] :=
  ⟨List.forall_mem_nil _, List.forall_mem_nil _, by decide, by decide⟩

theorem mem_shorten {path : List (List Char)} (h : s ∈ shorten path) : s ∈ path := by
  unfold shorten at h
  split at h
  · exact h
  · exact List.dropLast_subset path h

variable {done path : List (List Char)}

/-- A text without slashes becomes a segment of a path, unless it stands for dots. -/
theorem segments_enter (h : ∀ s ∈ done, Segment s) (clear : Clear inPathSet s)
    (slashes : Clear isSlash s) : ∀ t ∈ enter done s, Segment t := by
  unfold enter
  split
  · exact fun t ht => h t (mem_shorten ht)
  · rename_i doubleDot
    split
    · exact h
    · rename_i dot
      have new : Segment s :=
        ⟨clear, slashes, Bool.not_eq_true _ ▸ dot, Bool.not_eq_true _ ▸ doubleDot⟩
      exact List.forall_mem_append.mpr ⟨h, by simpa using new⟩

theorem segments_finish (h : ∀ s ∈ done, Segment s) (clear : Clear inPathSet s)
    (slashes : Clear isSlash s) : ∀ t ∈ finish done s, Segment t := by
  unfold finish
  split
  · exact List.forall_mem_append.mpr ⟨segments_enter h clear slashes, by simpa using segment_nil⟩
  · rename_i dots
    obtain ⟨doubleDot, dot⟩ := Bool.or_eq_false_iff.mp (Bool.not_eq_true _ ▸ dots)
    have segment : Segment s := ⟨clear, slashes, dot, doubleDot⟩
    exact List.forall_mem_append.mpr ⟨h, by simpa using segment⟩

theorem finish_ne_nil (done : List (List Char)) (s : List Char) : finish done s ≠ [] := by
  unfold finish
  split <;> simp

theorem segments_follow {segments : List (List Char)}
    (h : ∀ s ∈ segments, Clear inPathSet s ∧ Clear isSlash s) :
    ∀ t ∈ follow [] segments, Segment t := by
  have entered (front : List (List Char))
      (hf : ∀ s ∈ front, Clear inPathSet s ∧ Clear isSlash s) (done : List (List Char))
      (hd : ∀ s ∈ done, Segment s) : ∀ t ∈ front.foldl enter done, Segment t := by
    induction front generalizing done with
    | nil => exact hd
    | cons s front ih =>
      obtain ⟨hs, hf⟩ := List.forall_mem_cons.mp hf
      exact ih hf _ (segments_enter hd hs.1 hs.2)
  have front := entered segments.dropLast (fun s hs => h s (List.dropLast_subset segments hs)) []
    (List.forall_mem_nil _)
  rw [follow]
  cases last : segments.getLast? with
  | none => exact segments_finish front (List.forall_mem_nil _) (List.forall_mem_nil _)
  | some s =>
    have hs := h s (List.mem_of_getLast? last)
    exact segments_finish front hs.1 hs.2

theorem segments_pathFrom (s : List Char) : ∀ t ∈ pathFrom [] s, Segment t := by
  refine segments_follow fun t ht => ?_
  obtain ⟨piece, hp, rfl⟩ := List.mem_map.mp ht
  have slashes : Clear isSlash piece := not_separator_of_mem_splitOnP hp
  exact ⟨clear_encode_self rfl (by decide) piece,
    clear_encode (fun c hc _ => slashes c hc) rfl (by decide)⟩

theorem clear_readUserinfo {user : Userinfo} {special : Bool}
    (h : readUserinfo special s = .ok user) : Clear inUserinfoSet user.username ∧
      ∀ p, user.password = some p → p ≠ [] ∧ Clear inUserinfoSet p := by
  unfold readUserinfo at h
  dsimp only at h
  split at h
  · cases h
    exact ⟨List.forall_mem_nil _, nofun⟩
  · split at h
    · cases h
    · cases h
      refine ⟨clear_encode_self rfl (by decide) _, fun p hp => ?_⟩
      split at hp
      · cases hp
      · rename_i ne
        cases hp
        exact ⟨by simpa using ne, clear_encode_self rfl (by decide) _⟩

theorem canonical_withTail {u : Url} (username : Clear inUserinfoSet u.username)
    (password : ∀ p, u.password = some p → p ≠ [] ∧ Clear inUserinfoSet p)
    (host : HostText u.host.text) (port : u.port ≠ some u.scheme.defaultPort) (s : List Char) :
    (u.withTail [] s).Canonical where
  username := username
  password := password
  host := host
  port := port
  path_ne := finish_ne_nil _ _
  path := segments_pathFrom _
  query q hq := by
    obtain ⟨q, -, rfl⟩ := Option.map_eq_some_iff.mp hq
    exact clear_encode_self rfl (by decide) q
  fragment f hf := by
    obtain ⟨f, -, rfl⟩ := Option.map_eq_some_iff.mp hf
    exact clear_encode_self rfl (by decide) f

theorem canonical_of_readWeb {scheme : Scheme} {u : Url} (h : readWeb scheme s = .ok u) :
    u.Canonical := by
  unfold readWeb at h
  obtain ⟨user, hu, h⟩ := bind_eq_ok.mp h
  dsimp only at h
  split at h
  · cases h
  · obtain ⟨host, hh, h⟩ := bind_eq_ok.mp h
    obtain ⟨⟨port, rest⟩, -, h⟩ := bind_eq_ok.mp h
    cases h
    obtain ⟨username, password⟩ := clear_readUserinfo hu
    refine canonical_withTail username password (hostText_of_readHost hh) ?_ _
    intro same
    have other := (Option.filter_eq_some_iff.mp same).2
    simp at other

theorem web_of_map_eq {scheme : Scheme} {u : Url}
    (h : (readWeb scheme s).map Reading.web = .ok (.web u)) : u.Canonical := by
  cases read : readWeb scheme s with
  | error fault =>
    rw [read] at h
    cases h
  | ok url =>
    rw [read] at h
    cases h
    exact canonical_of_readWeb read

theorem map_other_ne {α : Type} {x : Except Fault α} {scheme : List Char} {u : Url} :
    x.map (fun _ => Reading.other scheme) ≠ .ok (.web u) := by
  cases x <;> nofun

/-- A URL that is read has encoded parts. -/
theorem canonical_of_read {text : String} {u : Url} (h : Url.read text = .ok (.web u)) :
    u.Canonical := by
  unfold Url.read at h
  split at h
  · cases h
  · split at h
    · exact web_of_map_eq h
    · exact web_of_map_eq h
    · exact absurd h map_other_ne
    · exact absurd h map_other_ne
    · exact absurd h map_other_ne
    · exact absurd h map_other_ne
    · split at h
      · exact absurd h map_other_ne
      · cases h

end FileLease.Url
