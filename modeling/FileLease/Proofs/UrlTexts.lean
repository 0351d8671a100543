import FileLease.Proofs.CanonicalUrls
import Mathlib.Data.List.TakeWhile

/-!
# URLs read back from their texts

Reading the text of a URL takes its parts apart where they were put together, if none of them holds
what separates it from the next. So the URL is read back, if its host is.
-/
namespace FileLease.Url
open Text

variable {c : Char} {s rest : List Char}

theorem splitSlashes_pathText {path : List (List Char)} (hs : Clear isSlash s)
    (h : ∀ s ∈ path, Clear isSlash s) : splitSlashes (s ++ pathText path) = s :: path := by
  induction path generalizing s with
  | nil =>
    rw [pathText, List.flatMap_nil, List.append_nil, splitSlashes, List.splitOnP_eq_singleton hs]
  | cons t path ih =>
    obtain ⟨ht, h⟩ := List.forall_mem_cons.mp h
    have text : s ++ pathText (t :: path) = s ++ '/' :: (t ++ pathText path) := by simp [pathText]
    rw [text, splitSlashes, List.splitOnP_append_cons_of_forall_mem hs '/' rfl, ← splitSlashes,
      ih ht h]

theorem enter_segment (h : Segment s) (done : List (List Char)) : enter done s = done ++ [s] := by
  rw [enter, h.doubleDot, h.dot]
  rfl

theorem finish_segment (h : Segment s) (done : List (List Char)) : finish done s = done ++ [s] := by
  rw [finish, h.doubleDot, h.dot]
  rfl

theorem foldl_enter_segments {segments : List (List Char)} (h : ∀ s ∈ segments, Segment s)
    (done : List (List Char)) : segments.foldl enter done = done ++ segments := by
  induction segments generalizing done with
  | nil => simp
  | cons s segments ih =>
    obtain ⟨hs, h⟩ := List.forall_mem_cons.mp h
    rw [List.foldl_cons, enter_segment hs, ih h, List.append_assoc]
    rfl

/-- Nothing is changed by following segments that are no dots. -/
theorem follow_segments {segments : List (List Char)} (ne : segments ≠ [])
    (h : ∀ s ∈ segments, Segment s) : follow [] segments = segments := by
  obtain ⟨front, last, rfl⟩ := (List.eq_nil_or_concat segments).resolve_left ne
  rw [List.concat_eq_append] at h ⊢
  obtain ⟨hf, hl⟩ := List.forall_mem_append.mp h
  rw [follow, List.dropLast_concat, List.getLast?_concat, Option.getD_some,
    foldl_enter_segments hf, List.nil_append, finish_segment (hl last (by simp))]

theorem pathFrom_pathText {path : List (List Char)} (ne : path ≠ []) (h : ∀ s ∈ path, Segment s) :
    pathFrom [] (pathText path).tail = path := by
  obtain ⟨s, rest, rfl⟩ := List.exists_cons_of_ne_nil ne
  have text : (pathText (s :: rest)).tail = s ++ pathText rest := by simp [pathText]
  have same : (s :: rest).map (percentEncode inPathSet) = s :: rest :=
    (List.map_congr_left fun s hs => percentEncode_of_clear (h s hs).clear).trans (List.map_id _)
  obtain ⟨hs, hr⟩ := List.forall_mem_cons.mp h
  rw [pathFrom, text, splitSlashes_pathText hs.slashes fun s hs => (hr s hs).slashes, same,
    follow_segments ne h]

def endsUserinfo (c : Char) : Bool :=
  endsAuthority true c || c = '@' || c = ':'

theorem endsUserinfo_of_inUserinfoSet (h : inUserinfoSet c = false) : endsUserinfo c = false := by
  simp only [inUserinfoSet, inPathSet, Bool.or_eq_false_iff] at h
  simp_all [endsUserinfo, endsAuthority]

def InAuthority (s : List Char) : Prop :=
  Clear (endsAuthority true) s ∧ '@' ∉ s

variable {authority : List Char}

theorem takeWhile_authority (hs : Clear (endsAuthority true) s)
    (ends : rest.head?.all (endsAuthority true) = true) :
    (s ++ rest).takeWhile (! endsAuthority true ·) = s :=
  takeWhile_run (fun c hc => by simp [hs c hc]) (by simpa using ends)

theorem readUserinfo_none (ha : InAuthority authority)
    (ends : rest.head?.all (endsAuthority true) = true) :
    readUserinfo true (authority ++ rest) = .ok ⟨[], none, authority ++ rest⟩ := by
  rw [readUserinfo]
  simp only [takeWhile_authority ha.1 ends]
  simp [ha.2]

/-- The credentials of a user end at the last sign that ends them. -/
theorem readUserinfo_some {user : List Char} (hu : Clear (endsAuthority true) user) (ne : user ≠ [])
    (ha : InAuthority authority) (ends : rest.head?.all (endsAuthority true) = true) :
    readUserinfo true (user ++ '@' :: (authority ++ rest)) =
      let password := percentEncode inUserinfoSet ((user.dropWhile (· ≠ ':')).drop 1)
      .ok ⟨percentEncode inUserinfoSet (user.takeWhile (· ≠ ':')),
        if password.isEmpty then none else some password, authority ++ rest⟩ := by
  have inside : Clear (endsAuthority true) (user ++ '@' :: authority) :=
    clear_append.mpr ⟨hu, List.forall_mem_cons.mpr ⟨rfl, ha.1⟩⟩
  have region : (user ++ '@' :: (authority ++ rest)).takeWhile (! endsAuthority true ·) =
      user ++ '@' :: authority := by
    have := takeWhile_authority inside ends
    rwa [List.append_assoc, List.cons_append] at this
  have back : (user ++ '@' :: authority).reverse.dropWhile (· ≠ '@') = '@' :: user.reverse := by
    rw [List.reverse_append, List.reverse_cons, List.append_assoc]
    exact dropWhile_run (run_of_not_mem (List.mem_reverse.not.mpr ha.2)) rfl
  have before :
      (((user ++ '@' :: authority).reverse.dropWhile (· ≠ '@')).drop 1).reverse = user := by
    rw [back, List.drop_one, List.tail_cons, List.reverse_reverse]
  have after : (user ++ '@' :: (authority ++ rest)).drop (user.length + 1) = authority ++ rest := by
    rw [← List.drop_drop, List.drop_left]
    rfl
  rw [readUserinfo]
  simp only [region, before, after]
  simp [ne]

variable {u : Url}

/-- Name and password are read back, an empty one not being told from none. -/
theorem readUserinfo_text (h : u.Canonical) (ha : InAuthority authority)
    (ends : rest.head?.all (endsAuthority true) = true) :
    readUserinfo true (u.userinfoText ++ (authority ++ rest)) =
      .ok ⟨u.username, u.password, authority ++ rest⟩ := by
  have inside {s : List Char} (hs : Clear inUserinfoSet s) : Clear endsUserinfo s :=
    hs.mono fun _ => endsUserinfo_of_inUserinfoSet
  have around {s : List Char} (hs : Clear endsUserinfo s) : Clear (endsAuthority true) s :=
    hs.mono fun _ hc => (Bool.or_eq_false_iff.mp (Bool.or_eq_false_iff.mp hc).1).1
  have noColon : ∀ c ∈ u.username, decide (c ≠ ':') = true := fun c hc => by
    have := inside h.username c hc
    simp only [endsUserinfo, Bool.or_eq_false_iff, decide_eq_false_iff_not] at this
    simpa using this.2
  have name : percentEncode inUserinfoSet u.username = u.username :=
    percentEncode_of_clear h.username
  cases hp : u.password with
  | none =>
    by_cases hn : u.username = []
    · have text : u.userinfoText = [] := by simp [userinfoText, hp, hn]
      rw [text, List.nil_append, readUserinfo_none ha ends, hn]
    · have text : u.userinfoText = u.username ++ ['@'] := by
        unfold userinfoText
        split <;> simp_all
      have whole : u.username.takeWhile (· ≠ ':') = u.username :=
        List.takeWhile_eq_self_iff.mpr noColon
      have none : u.username.dropWhile (· ≠ ':') = [] := List.dropWhile_eq_nil_iff.mpr noColon
      rw [text, List.append_assoc, List.singleton_append,
        readUserinfo_some (around (inside h.username)) hn ha ends, whole, none, name]
      rfl
  | some password =>
    obtain ⟨ne, clear⟩ := h.password password hp
    have text : u.userinfoText = (u.username ++ ':' :: password) ++ ['@'] := by
      simp [userinfoText, hp]
    have name' : (u.username ++ ':' :: password).takeWhile (· ≠ ':') = u.username :=
      takeWhile_run noColon rfl
    have rest' : (u.username ++ ':' :: password).dropWhile (· ≠ ':') = ':' :: password :=
      dropWhile_run noColon rfl
    have all : Clear (endsAuthority true) (u.username ++ ':' :: password) :=
      clear_append.mpr ⟨around (inside h.username),
        List.forall_mem_cons.mpr ⟨rfl, around (inside clear)⟩⟩
    rw [text, List.append_assoc, List.singleton_append,
      readUserinfo_some all (by simp) ha ends, name', rest', name, List.drop_one, List.tail_cons,
      percentEncode_of_clear clear]
    simp [ne]

/-- None of them ends an authority or a part of it, and all of them are visible. -/
structure Inner (c : Char) : Prop where
  authority : endsAuthority true c = false
  at_ne : c ≠ '@'
  open_ne : c ≠ '['
  close_ne : c ≠ ']'
  visible : 0x20 < c.toNat

theorem inner_of_within (h : isForbiddenWithin c = false) : Inner c := by
  by_cases colon : c = ':'
  · subst colon
    exact ⟨by decide, by decide, by decide, by decide, by decide⟩
  · simp only [isForbiddenWithin, isForbidden, Bool.and_eq_false_iff, Bool.or_eq_false_iff,
      decide_eq_false_iff_not, colon, not_false_eq_true, not_true_eq_false, or_false, ne_eq] at h
    refine ⟨by simp [endsAuthority, h], ?_, ?_, ?_, by omega⟩ <;> simp [h]

theorem within_of_isForbidden (h : isForbidden c = false) : isForbiddenWithin c = false := by
  rw [isForbiddenWithin, h, Bool.false_and]

theorem ne_colon_of_isForbidden (h : isForbidden c = false) : c ≠ ':' := by
  rintro rfl
  exact absurd h (by decide)

def endsHost (c : Char) : Bool :=
  endsAuthority true c || c = ':'

theorem hostLength_end (ends : rest.head?.all endsHost = true) :
    hostLength true false rest = 0 := by
  cases rest with
  | nil => rfl
  | cons c rest =>
    have hc : (endsAuthority true c || (c = ':' && !false)) = true := by simpa [endsHost] using ends
    rw [hostLength, if_pos hc]

theorem hostLength_plain (clear : Clear isForbidden s) (ends : rest.head?.all endsHost = true) :
    hostLength true false (s ++ rest) = s.length := by
  induction s with
  | nil => exact hostLength_end ends
  | cons c s ih =>
    obtain ⟨hc, clear⟩ := List.forall_mem_cons.mp clear
    have inner := inner_of_within (within_of_isForbidden hc)
    have colon := ne_colon_of_isForbidden hc
    rw [List.cons_append, hostLength, if_neg (by simp [inner.authority, colon]),
      if_neg inner.open_ne, if_neg inner.close_ne, ih clear, List.length_cons, Nat.add_comm]

theorem hostLength_within (clear : Clear isForbiddenWithin s)
    (ends : rest.head?.all endsHost = true) :
    hostLength true true (s ++ ']' :: rest) = s.length + 1 := by
  induction s with
  | nil =>
    have close : ¬ (endsAuthority true ']' || (']' = ':' && !true)) = true := by decide
    rw [List.nil_append, hostLength, if_neg close]
    simp [hostLength_end ends]
  | cons c s ih =>
    obtain ⟨hc, clear⟩ := List.forall_mem_cons.mp clear
    have inner := inner_of_within hc
    rw [List.cons_append, hostLength, if_neg (by simp [inner.authority]),
      if_neg inner.open_ne, if_neg inner.close_ne, ih clear, List.length_cons, Nat.add_comm]

theorem hostLength_text (host : HostText s) (ends : rest.head?.all endsHost = true) :
    hostLength true false (s ++ rest) = s.length := by
  cases host with
  | plain ne clear => exact hostLength_plain clear ends
  | @bracketed s clear =>
    have first : ¬ (endsAuthority true '[' || ('[' = ':' && !false)) = true := by decide
    have text : '[' :: s ++ [']'] ++ rest = '[' :: (s ++ ']' :: rest) := by simp
    rw [text, hostLength, if_neg first, if_pos rfl, hostLength_within clear ends]
    simp [Nat.add_comm]

theorem readPort_text (port : Option UInt16) (rest : List Char) :
    readPort (({ u with port } : Url).portText ++ '/' :: rest) = .ok (port, '/' :: rest) := by
  cases port with
  | none => rfl
  | some port =>
    have digits : (decimal port.toNat ++ '/' :: rest).takeWhile Char.isDigit = decimal port.toNat :=
      takeWhile_run (fun c hc => isDigit_of_mem_decimal hc) rfl
    have small : ¬ 65535 < port.toNat := by have := port.toNat_lt; omega
    have back : port.toNat.toUInt16 = port := UInt16.ofNat_toNat
    have written : (decimal port.toNat).isEmpty = false := by
      simpa using decimal_ne_nil port.toNat
    show readPort (':' :: (decimal port.toNat ++ '/' :: rest)) = _
    rw [readPort]
    simp only [digits, List.drop_left, ofDigitChars_decimal, small, written, back]
    rfl

theorem clear_pathText {set : Char → Bool} (slash : set '/' = false) {path : List (List Char)}
    (h : ∀ s ∈ path, Clear set s) : Clear set (pathText path) := by
  intro c hc
  obtain ⟨s, hs, hc⟩ := List.mem_flatMap.mp hc
  rcases List.mem_cons.mp hc with rfl | hc
  · exact slash
  · exact h s hs c hc

theorem pathText_cons {path : List (List Char)} (ne : path ≠ []) :
    pathText path = '/' :: (pathText path).tail := by
  obtain ⟨s, rest, rfl⟩ := List.exists_cons_of_ne_nil ne
  rfl

/-- A part is taken up to the mark of the fragment. -/
theorem takeWhile_part (h : '#' ∉ s) (fragment : Option (List Char)) :
    (s ++ markedText '#' fragment).takeWhile (· ≠ '#') = s := by
  refine takeWhile_run (run_of_not_mem h) ?_
  cases fragment <;> rfl

theorem dropWhile_part (h : '#' ∉ s) (fragment : Option (List Char)) :
    (s ++ markedText '#' fragment).dropWhile (· ≠ '#') = markedText '#' fragment := by
  refine dropWhile_run (run_of_not_mem h) ?_
  cases fragment <;> rfl

theorem map_encode_of_clear {set : Char → Bool} {part : Option (List Char)}
    (h : ∀ s, part = some s → Clear set s) : part.map (percentEncode set) = part := by
  cases part with
  | none => rfl
  | some s => exact congrArg some (percentEncode_of_clear (h s rfl))

theorem withTail_text (h : u.Canonical) (v : Url) :
    v.withTail [] ((pathText u.path).tail ++
      (markedText '?' u.query ++ markedText '#' u.fragment)) =
      { v with path := u.path, query := u.query, fragment := u.fragment } := by
  have marks : Clear (fun c => c = '?' || c = '#') (pathText u.path) :=
    clear_pathText rfl fun s hs => (h.path s hs).clear.mono fun c hc => by
      simp only [inPathSet, Bool.or_eq_false_iff] at hc
      simp [hc]
  have path : ((pathText u.path).tail ++ (markedText '?' u.query ++
      markedText '#' u.fragment)).takeWhile (fun c => c ≠ '?' ∧ c ≠ '#') =
      (pathText u.path).tail := by
    refine takeWhile_run (fun c hc => ?_) ?_
    · simpa using marks c (List.mem_of_mem_tail hc)
    · cases u.query <;> cases u.fragment <;> rfl
  have away {q : List Char} (hq : u.query = some q) : '#' ∉ q :=
    fun mem => absurd (h.query q hq _ mem) (by decide)
  have fragment : (markedText '?' u.query ++ markedText '#' u.fragment).dropWhile (· ≠ '#') =
      markedText '#' u.fragment := by
    refine dropWhile_part ?_ u.fragment
    cases hq : u.query with
    | none => exact List.not_mem_nil
    | some q => simpa [markedText] using away hq
  have query : (if (markedText '?' u.query ++ markedText '#' u.fragment).head? = some '?' then
      some ((markedText '?' u.query ++ markedText '#' u.fragment).tail.takeWhile (· ≠ '#'))
      else none) = u.query := by
    cases hq : u.query with
    | none => cases u.fragment <;> rfl
    | some q => exact congrArg some (takeWhile_part (away hq) u.fragment)
  have fragment' : (if (markedText '#' u.fragment).isEmpty then none
      else some (markedText '#' u.fragment).tail) = u.fragment := by
    cases u.fragment <;> rfl
  rw [withTail]
  simp only [path, List.drop_left, fragment, query, fragment',
    map_encode_of_clear h.query, map_encode_of_clear h.fragment,
    pathFrom_pathText h.path_ne h.path]

theorem inner_of_hostText (host : HostText s) :
    ∀ c ∈ s, endsAuthority true c = false ∧ c ≠ '@' ∧ 0x20 < c.toNat := by
  have within {c : Char} (h : isForbiddenWithin c = false) :
      endsAuthority true c = false ∧ c ≠ '@' ∧ 0x20 < c.toNat :=
    ⟨(inner_of_within h).authority, (inner_of_within h).at_ne, (inner_of_within h).visible⟩
  intro c hc
  cases host with
  | plain ne clear => exact within (within_of_isForbidden (clear c hc))
  | @bracketed s clear =>
    rcases List.mem_append.mp hc with hc | hc
    · rcases List.mem_cons.mp hc with rfl | hc
      · decide
      · exact within (clear c hc)
    · obtain rfl := List.mem_singleton.mp hc
      decide

theorem mem_portText {c : Char} (h : c ∈ u.portText) : c = ':' ∨ c.isDigit = true := by
  unfold portText at h
  split at h
  · cases h
  · rcases List.mem_cons.mp h with rfl | h
    · exact .inl rfl
    · exact .inr (isDigit_of_mem_decimal h)

theorem inAuthority_text (host : HostText u.host.text) :
    InAuthority (u.host.text ++ u.portText) := by
  have port : ∀ c ∈ u.portText, endsAuthority true c = false ∧ c ≠ '@' := by
    intro c hc
    obtain rfl | digit := mem_portText hc
    · decide
    · have ne {d : Char} (hd : d.isDigit = false) : c ≠ d := ne_of_isDigit digit hd
      exact ⟨by simp [endsAuthority, ne], ne rfl⟩
  have inner : ∀ c ∈ u.host.text ++ u.portText, endsAuthority true c = false ∧ c ≠ '@' := by
    intro c hc
    rcases List.mem_append.mp hc with hc | hc
    · exact ⟨(inner_of_hostText host c hc).1, (inner_of_hostText host c hc).2.1⟩
    · exact port c hc
  exact ⟨fun c hc => (inner c hc).1, fun hc => (inner _ hc).2 rfl⟩

theorem HostText.ne_nil (host : HostText s) : s ≠ [] := by
  cases host with
  | plain ne => exact ne
  | bracketed => exact List.cons_ne_nil _ _

def tailText (u : Url) : List Char :=
  pathText u.path ++ (markedText '?' u.query ++ markedText '#' u.fragment)

def webText (u : Url) : List Char :=
  u.userinfoText ++ (u.host.text ++ (u.portText ++ u.tailText))

theorem characters_eq (u : Url) :
    u.characters = u.scheme.text ++ ':' :: '/' :: '/' :: u.webText := by
  simp [characters, webText, tailText]

theorem readWeb_text (h : u.Canonical) (stable : readHost u.host.text = .ok u.host) :
    readWeb u.scheme u.webText = .ok u := by
  have path : u.tailText = '/' :: u.tailText.tail := by
    rw [tailText, pathText_cons h.path_ne]
    rfl
  have tail : u.tailText.tail =
      (pathText u.path).tail ++ (markedText '?' u.query ++ markedText '#' u.fragment) := by
    rw [tailText, pathText_cons h.path_ne]
    rfl
  have user : readUserinfo true u.webText =
      .ok ⟨u.username, u.password, u.host.text ++ (u.portText ++ u.tailText)⟩ := by
    have ends : u.tailText.head?.all (endsAuthority true) = true := by
      rw [path]
      rfl
    have read := readUserinfo_text h (inAuthority_text h.host) ends
    rwa [List.append_assoc] at read
  have length : hostLength true false (u.host.text ++ (u.portText ++ u.tailText)) =
      u.host.text.length := by
    refine hostLength_text h.host ?_
    rw [path, portText]
    cases u.port <;> rfl
  have named : u.host.text.length ≠ 0 := by
    simpa using h.host.ne_nil
  have port : readPort (u.portText ++ u.tailText) = .ok (u.port, u.tailText) := by
    rw [path]
    exact readPort_text u.port _
  have kept : u.port.filter (· ≠ u.scheme.defaultPort) = u.port := by
    cases hp : u.port with
    | none => rfl
    | some port =>
      have other : port ≠ u.scheme.defaultPort := fun same => h.port (hp.trans (congrArg some same))
      simp [Option.filter, other]
  have slash : u.tailText.head?.any isSlash = true := by
    rw [path]
    rfl
  rw [readWeb, user]
  simp only [ok_bind, length, named, if_false, List.take_left, List.drop_left, stable, port, kept,
    slash, if_true, tail, withTail_text h, pure_eq_ok]

def isUnseen (c : Char) : Bool :=
  c.toNat ≤ 0x20

theorem visible_of_inFragmentSet (h : inFragmentSet c = false) : 0x20 < c.toNat := by
  simp only [inFragmentSet, isControl, Bool.or_eq_false_iff, decide_eq_false_iff_not] at h
  have space : c.toNat ≠ 0x20 := fun same => h.1.1.1.1.2 (Char.toNat_inj.mp same)
  omega

theorem visible_of_inQuerySet (h : inQuerySet c = false) : 0x20 < c.toNat := by
  simp only [inQuerySet, isControl, Bool.or_eq_false_iff, decide_eq_false_iff_not] at h
  have space : c.toNat ≠ 0x20 := fun same => h.1.1.1.1.1.2 (Char.toNat_inj.mp same)
  omega

theorem inFragmentSet_of_inPathSet (h : inPathSet c = false) : inFragmentSet c = false := by
  simp only [inPathSet, Bool.or_eq_false_iff] at h
  exact h.1.1.1.1

theorem inPathSet_of_inUserinfoSet (h : inUserinfoSet c = false) : inPathSet c = false := by
  simp only [inUserinfoSet, Bool.or_eq_false_iff] at h
  exact h.1.1.1.1.1.1.1.1.1.1

theorem unseen_eq_false (h : 0x20 < c.toNat) : isUnseen c = false := by
  simpa [isUnseen] using h

theorem clear_userinfoText {set : Char → Bool} (at_ : set '@' = false) (colon : set ':' = false)
    (name : Clear set u.username) (password : ∀ p, u.password = some p → Clear set p) :
    Clear set u.userinfoText := by
  have ends : Clear set ['@'] := by simpa [Clear] using at_
  unfold userinfoText
  split
  · exact List.forall_mem_nil _
  · exact clear_append.mpr ⟨name, ends⟩
  · rename_i p hp
    exact clear_append.mpr ⟨clear_append.mpr ⟨name,
      List.forall_mem_cons.mpr ⟨colon, password p hp⟩⟩, ends⟩

theorem clear_markedText {set : Char → Bool} {mark : Char} (hm : set mark = false)
    {part : Option (List Char)} (h : ∀ p, part = some p → Clear set p) :
    Clear set (markedText mark part) := by
  cases part with
  | none => exact List.forall_mem_nil _
  | some p => exact List.forall_mem_cons.mpr ⟨hm, h p rfl⟩

/-- All that is written of a URL is seen. -/
theorem clear_characters (h : u.Canonical) : Clear isUnseen u.characters := by
  have named {s : List Char} (hs : Clear inUserinfoSet s) : Clear isUnseen s := hs.mono fun c hc =>
    unseen_eq_false (visible_of_inFragmentSet (inFragmentSet_of_inPathSet
      (inPathSet_of_inUserinfoSet hc)))
  have scheme : Clear isUnseen (u.scheme.text ++ [':', '/', '/']) := by
    cases u.scheme <;> decide
  have userinfo : Clear isUnseen u.userinfoText :=
    clear_userinfoText rfl rfl (named h.username) fun p hp => named (h.password p hp).2
  have host : Clear isUnseen u.host.text :=
    fun c hc => unseen_eq_false (inner_of_hostText h.host c hc).2.2
  have port : Clear isUnseen u.portText := by
    intro c hc
    obtain rfl | digit := mem_portText hc
    · rfl
    · have := (isDigit_bounds digit).1
      exact unseen_eq_false (by omega)
  have path : Clear isUnseen (pathText u.path) :=
    clear_pathText rfl fun s hs => (h.path s hs).clear.mono fun c hc =>
      unseen_eq_false (visible_of_inFragmentSet (inFragmentSet_of_inPathSet hc))
  have query : Clear isUnseen (markedText '?' u.query) :=
    clear_markedText rfl fun q hq => (h.query q hq).mono fun c hc =>
      unseen_eq_false (visible_of_inQuerySet hc)
  have fragment : Clear isUnseen (markedText '#' u.fragment) :=
    clear_markedText rfl fun f hf => (h.fragment f hf).mono fun c hc =>
      unseen_eq_false (visible_of_inFragmentSet hc)
  rw [characters]
  simp only [clear_append]
  exact ⟨⟨⟨⟨⟨⟨clear_append.mp scheme, userinfo⟩, host⟩, port⟩, path⟩, query⟩, fragment⟩

/-- Tabs and line breaks are unseen, so none is taken out of a text that is seen. -/
theorem filter_isIgnored_eq_self (h : Clear isUnseen s) : s.filter (! isIgnored ·) = s := by
  refine List.filter_eq_self.mpr fun c hc => ?_
  have seen := h c hc
  have other {d : Char} (hd : isUnseen d = true) : c ≠ d := by
    rintro rfl
    rw [hd] at seen
    cases seen
  simp [isIgnored, other (d := '\t') rfl, other (d := '\n') rfl, other (d := '\r') rfl]

theorem clean_eq_self (h : Clear isUnseen s) : clean s = s := by
  have stripped : strip (·.toNat ≤ 0x20) s = s := strip_of_forall h
  rw [clean, stripped, filter_isIgnored_eq_self h]

theorem isSlash_of_authority (h : endsAuthority true c = false) : isSlash c = false := by
  simp only [endsAuthority, Bool.or_eq_false_iff, Bool.true_and] at h
  rw [isSlash, h.1.1.1, h.2]
  rfl

/-- No slash more than the two stands behind the scheme. -/
theorem dropWhile_webText (h : u.Canonical) :
    ('/' :: '/' :: u.webText).dropWhile isSlash = u.webText := by
  have named {s : List Char} (hs : Clear inUserinfoSet s) : Clear isSlash s :=
    hs.mono fun c hc => by
      simp only [inUserinfoSet, Bool.or_eq_false_iff] at hc
      simp [isSlash, hc]
  have front : Clear isSlash (u.userinfoText ++ u.host.text) :=
    clear_append.mpr ⟨clear_userinfoText rfl rfl (named h.username) fun p hp =>
      named (h.password p hp).2, fun c hc => isSlash_of_authority (inner_of_hostText h.host c hc).1⟩
  have ne : u.userinfoText ++ u.host.text ≠ [] := by simp [h.host.ne_nil]
  obtain ⟨c, rest, whole⟩ := List.exists_cons_of_ne_nil ne
  have first : isSlash c = false := front c (whole ▸ List.mem_cons_self)
  have text : u.webText = c :: (rest ++ (u.portText ++ u.tailText)) := by
    rw [webText, ← List.append_assoc, whole, List.cons_append]
  rw [List.dropWhile_cons_of_pos rfl, List.dropWhile_cons_of_pos rfl, text,
    List.dropWhile_cons_of_neg (by simp [first])]

/-- A URL of encoded parts is read back from its text. -/
theorem read_text (h : u.Canonical) (stable : readHost u.host.text = .ok u.host) :
    read u.text = .ok (.web u) := by
  have whole : clean u.text.toList = u.scheme.text ++ ':' :: '/' :: '/' :: u.webText := by
    rw [text, String.toList_ofList, clean_eq_self (clear_characters h), characters_eq]
  have web := dropWhile_webText h
  have again := readWeb_text h stable
  have split : splitScheme? (u.scheme.text ++ ':' :: '/' :: '/' :: u.webText) =
      some (u.scheme.text, '/' :: '/' :: u.webText) := by
    cases u.scheme <;> rfl
  rw [Url.read, whole, split]
  cases hs : u.scheme with
  | http =>
    rw [hs] at again
    show (readWeb .http (('/' :: '/' :: u.webText).dropWhile isSlash)).map Reading.web = _
    rw [web, again]
    rfl
  | https =>
    rw [hs] at again
    show (readWeb .https (('/' :: '/' :: u.webText).dropWhile isSlash)).map Reading.web = _
    rw [web, again]
    rfl

end FileLease.Url
