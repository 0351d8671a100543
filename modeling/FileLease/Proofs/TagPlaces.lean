import FileLease.Proofs.ElementTexts
import FileLease.Proofs.TextBytes

/-!
# Places of tags in bytes

A tag stands first in the bytes of a text where it stands first in the text itself, and so between
two characters of it. What the bytes between two tags say is the text between them.
-/
namespace FileLease.Text

variable {s t : List Char}

theorem length_bytesOf (s : String) : (bytesOf s).length = s.utf8ByteSize := by
  rw [bytesOf_eq, ← String.size_toByteArray, ← String.utf8Encode_toList, List.utf8Encode]
  simp

/-- A text with the bytes of another one at its front begins with that text. -/
theorem prefix_of_bytes
    (h : s.flatMap String.utf8EncodeChar <+: t.flatMap String.utf8EncodeChar) : s <+: t := by
  obtain ⟨rest, h⟩ := h
  refine ⟨decodeUtf8 none rest, ?_⟩
  rw [← decodeUtf8_append, h, decodeUtf8_encode]

/-- A byte of ASCII is among the bytes of its own character alone. -/
theorem eq_of_byteOf_mem {p c : Char} (ascii : p.toNat < 128)
    (mem : byteOf p ∈ String.utf8EncodeChar c) : p = c := by
  have low : c.toNat < 128 := by
    refine Nat.lt_of_not_le fun wide => ?_
    have beyond := le_of_mem_encodeChar wide mem
    rw [toNat_byteOf ascii] at beyond
    omega
  rw [encodeChar_of_ascii low, List.mem_singleton] at mem
  rw [← Char.toNat_inj, ← toNat_byteOf ascii, mem, toNat_byteOf low]

/-- A byte of ASCII among the bytes of a text is that of a character, which stands between the texts
of the bytes before and after it. -/
theorem exists_of_byte {p : Char} (ascii : p.toNat < 128) {front rest : List UInt8}
    (h : s.flatMap String.utf8EncodeChar = front ++ byteOf p :: rest) : ∃ before after,
      s = before ++ p :: after ∧ before.flatMap String.utf8EncodeChar = front ∧
        after.flatMap String.utf8EncodeChar = rest := by
  induction s generalizing front with
  | nil => exact absurd h.symm (List.append_ne_nil_of_right_ne_nil _ (List.cons_ne_nil _ _))
  | cons c s ih =>
    rw [List.flatMap_cons, List.append_eq_append_iff] at h
    obtain ⟨front, rfl, h⟩ | ⟨more, hc, h⟩ := h
    · obtain ⟨before, after, rfl, rfl, rfl⟩ := ih h
      exact ⟨c :: before, after, rfl, List.flatMap_cons, rfl⟩
    · cases more with
      | nil =>
        obtain ⟨before, after, rfl, none, rfl⟩ := ih (show _ = [] ++ _ from h.symm)
        exact ⟨c :: before, after, rfl, by rw [List.flatMap_cons, none, hc, List.append_nil,
          List.append_nil], rfl⟩
      | cons b more =>
        -- the byte is one of the first character, which then has no other
        obtain ⟨rfl, rfl⟩ := List.cons.inj h
        obtain rfl : p = c := eq_of_byteOf_mem ascii (by simp [hc])
        rw [encodeChar_of_ascii ascii] at hc
        obtain ⟨rfl, last⟩ | ⟨-, none⟩ := List.append_eq_singleton_iff.mp hc.symm
        · obtain rfl : more = [] := (List.cons.inj last).2
          exact ⟨[], s, rfl, rfl, rfl⟩
        · cases none

structure FirstPlace (piece bytes : List UInt8) (place : Nat) : Prop where
  stands : piece <+: bytes.drop place
  first : ∀ earlier, earlier < place → ¬ piece <+: bytes.drop earlier

/-- What is in front of a character ends at a place between characters. -/
theorem isValid_bytes {s : String} {before after : List Char} (whole : s.toList = before ++ after) :
    String.Pos.Raw.IsValid s ⟨(before.flatMap String.utf8EncodeChar).length⟩ := by
  refine String.Pos.Raw.isValid_iff_exists_append.mpr
    ⟨String.ofList before, String.ofList after, ?_, ?_⟩
  · rw [← String.ofList_append, ← whole, String.ofList_toList]
  · rw [String.Pos.Raw.ext_iff, String.byteIdx_rawEndPos, ← length_bytesOf, bytesOf_eq,
      String.toList_ofList]

/-- Of two texts at the front of another one, the longer has more bytes. -/
theorem bytes_lt_iff {front before : List Char} (hs : front <+: s) (hs' : before <+: s) :
    (front.flatMap String.utf8EncodeChar).length < (before.flatMap String.utf8EncodeChar).length ↔
      front.length < before.length := by
  rcases Nat.lt_or_ge front.length before.length with shorter | longer
  · obtain ⟨more, rfl⟩ := List.prefix_of_prefix_length_le hs hs' (Nat.le_of_lt shorter)
    refine iff_of_true ?_ shorter
    cases more with
    | nil => simp at shorter
    | cons c more =>
      have some := c.utf8Size_pos
      rw [List.flatMap_append, List.flatMap_cons, List.length_append, List.length_append,
        String.length_utf8EncodeChar]
      omega
  · obtain ⟨more, rfl⟩ := List.prefix_of_prefix_length_le hs' hs longer
    refine iff_of_false ?_ (Nat.not_lt.mpr longer)
    rw [List.flatMap_append, List.length_append]
    omega

end FileLease.Text

namespace FileLease.Http
open Text

variable {p : Char} {ps s : List Char} {place : Nat}

/-- A piece that begins with a character of ASCII stands in the bytes of a text where it stands in
the text. -/
theorem stands_iff (ascii : p.toNat < 128) :
    (p :: ps).flatMap String.utf8EncodeChar <+: (s.flatMap String.utf8EncodeChar).drop place ↔
      ∃ before after, s = before ++ (p :: ps ++ after) ∧
        place = (before.flatMap String.utf8EncodeChar).length := by
  constructor
  · rintro ⟨rest, h⟩
    rw [List.flatMap_cons, encodeChar_of_ascii ascii, List.singleton_append, List.cons_append] at h
    have whole := List.take_append_drop place (s.flatMap String.utf8EncodeChar)
    rw [← h] at whole
    obtain ⟨before, after, rfl, front, behind⟩ := exists_of_byte ascii whole.symm
    have inside : place < ((before ++ p :: after).flatMap String.utf8EncodeChar).length := by
      refine Nat.lt_of_not_le fun beyond => ?_
      rw [List.drop_eq_nil_of_le beyond] at h
      cases h
    obtain ⟨after, rfl⟩ := prefix_of_bytes ⟨rest, behind.symm⟩
    refine ⟨before, after, rfl, ?_⟩
    rw [front, List.length_take, Nat.min_eq_left (Nat.le_of_lt inside)]
  · rintro ⟨before, after, rfl, rfl⟩
    rw [List.flatMap_append, List.drop_left, List.flatMap_append]
    exact List.prefix_append _ _

/-- It stands first in the bytes where it stands first in the text. -/
theorem firstPlace_iff (ascii : p.toNat < 128) :
    FirstPlace ((p :: ps).flatMap String.utf8EncodeChar) (s.flatMap String.utf8EncodeChar) place ↔
      ∃ before after, FirstAt (p :: ps) s before after ∧
        place = (before.flatMap String.utf8EncodeChar).length := by
  constructor
  · rintro ⟨stands, first⟩
    obtain ⟨before, after, whole, rfl⟩ := (stands_iff ascii).mp stands
    refine ⟨before, after, ⟨whole, fun front rest hs => Nat.le_of_not_lt fun shorter => ?_⟩, rfl⟩
    have less := (bytes_lt_iff ⟨_, hs.symm⟩ ⟨_, whole.symm⟩).mpr shorter
    exact first _ less ((stands_iff ascii).mpr ⟨front, rest, hs, rfl⟩)
  · rintro ⟨before, after, ⟨whole, first⟩, rfl⟩
    refine ⟨(stands_iff ascii).mpr ⟨before, after, whole, rfl⟩, fun earlier less stands => ?_⟩
    obtain ⟨front, rest, hs, rfl⟩ := (stands_iff ascii).mp stands
    have shorter := (bytes_lt_iff ⟨_, hs.symm⟩ ⟨_, whole.symm⟩).mp less
    exact absurd (first front rest hs) (Nat.not_le.mpr shorter)

/-- The text of an element begins at a place: behind the first tag that opens it. -/
def Begins (body name : String) (start : Nat) : Prop :=
  ∃ place, FirstPlace (bytesOf ("<" ++ name ++ ">")) (bytesOf body) place ∧
    start = place + (bytesOf ("<" ++ name ++ ">")).length

/-- The text of an element that begins at a place ends at another one: before the first tag from
there on that closes it. -/
def EndsFrom (body name : String) (start stop : Nat) : Prop :=
  ∃ length, FirstPlace (bytesOf ("</" ++ name ++ ">")) ((bytesOf body).drop start) length ∧
    stop = start + length

variable {body name : String} {start stop : Nat}

theorem bytesOf_openTag (name : String) :
    bytesOf ("<" ++ name ++ ">") = (openTag name.toList).flatMap String.utf8EncodeChar := by
  rw [bytesOf_eq, String.toList_append, String.toList_append]
  rfl

theorem bytesOf_closeTag (name : String) :
    bytesOf ("</" ++ name ++ ">") = (closeTag name.toList).flatMap String.utf8EncodeChar := by
  rw [bytesOf_eq, String.toList_append, String.toList_append]
  rfl

theorem begins_iff : Begins body name start ↔ ∃ before after,
    FirstAt (openTag name.toList) body.toList before after ∧
      start = ((before ++ openTag name.toList).flatMap String.utf8EncodeChar).length := by
  simp only [Begins, bytesOf_openTag, bytesOf_eq body, List.flatMap_append, List.length_append]
  constructor
  · rintro ⟨place, first, rfl⟩
    obtain ⟨before, after, found, rfl⟩ := (firstPlace_iff (by decide)).mp first
    exact ⟨before, after, found, rfl⟩
  · rintro ⟨before, after, found, rfl⟩
    exact ⟨_, (firstPlace_iff (by decide)).mpr ⟨before, after, found, rfl⟩, rfl⟩

theorem endsFrom_iff {front after : List Char} (whole : body.toList = front ++ after)
    (behind : start = (front.flatMap String.utf8EncodeChar).length) :
    EndsFrom body name start stop ↔ ∃ inside rest,
      FirstAt (closeTag name.toList) after inside rest ∧
        stop = start + (inside.flatMap String.utf8EncodeChar).length := by
  have rest : (bytesOf body).drop start = after.flatMap String.utf8EncodeChar := by
    rw [bytesOf_eq, whole, List.flatMap_append, behind, List.drop_left]
  simp only [EndsFrom, bytesOf_closeTag, rest]
  constructor
  · rintro ⟨length, first, rfl⟩
    obtain ⟨inside, rest, found, rfl⟩ := (firstPlace_iff (by decide)).mp first
    exact ⟨inside, rest, found, rfl⟩
  · rintro ⟨inside, rest, found, rfl⟩
    exact ⟨_, (firstPlace_iff (by decide)).mpr ⟨inside, rest, found, rfl⟩, rfl⟩

/-- The text of an element begins between two characters of the body, or at its end. -/
theorem Begins.isValid (begins : Begins body name start) : String.Pos.Raw.IsValid body ⟨start⟩ := by
  obtain ⟨before, after, opened, rfl⟩ := begins_iff.mp begins
  exact isValid_bytes opened.split

/-- The text of an element has places where its tags stand in the body. -/
theorem places_iff : Begins body name start ∧ EndsFrom body name start stop ↔
    ∃ before after inside rest, FirstAt (openTag name.toList) body.toList before after ∧
      FirstAt (closeTag name.toList) after inside rest ∧
      start = ((before ++ openTag name.toList).flatMap String.utf8EncodeChar).length ∧
      stop = start + (inside.flatMap String.utf8EncodeChar).length := by
  constructor
  · rintro ⟨begins, ends⟩
    obtain ⟨before, after, opened, behind⟩ := begins_iff.mp begins
    obtain ⟨inside, rest, closed, last⟩ := (endsFrom_iff opened.split behind).mp ends
    exact ⟨before, after, inside, rest, opened, closed, behind, last⟩
  · rintro ⟨before, after, inside, rest, opened, closed, behind, last⟩
    exact ⟨begins_iff.mpr ⟨before, after, opened, behind⟩,
      (endsFrom_iff opened.split behind).mpr ⟨inside, rest, closed, last⟩⟩

/-- What stands between two tags ends between two characters, and is what the bytes say from where
it begins to where it ends. -/
theorem isValid_and_slice {before after inside rest : List Char}
    (opened : FirstAt (openTag name.toList) body.toList before after)
    (closed : FirstAt (closeTag name.toList) after inside rest)
    (behind : start = ((before ++ openTag name.toList).flatMap String.utf8EncodeChar).length)
    (last : stop = start + (inside.flatMap String.utf8EncodeChar).length) :
    String.Pos.Raw.IsValid body ⟨stop⟩ ∧
      ((bytesOf body).drop start).take (stop - start) = inside.flatMap String.utf8EncodeChar := by
  have whole : body.toList = (before ++ openTag name.toList ++ inside) ++
      (closeTag name.toList ++ rest) := by
    rw [opened.whole, closed.whole]
    simp only [List.append_assoc]
  constructor
  · have valid := isValid_bytes whole
    rwa [List.flatMap_append, List.length_append, ← behind, ← last] at valid
  · rw [bytesOf_eq, whole, List.flatMap_append, List.flatMap_append, List.append_assoc, behind,
      List.drop_left, ← behind, last, Nat.add_sub_cancel_left, List.take_left]

/-- The text of an element is what the bytes say from where it begins to where it ends. -/
theorem elementText?_eq_some_iff_places {text : List Char} :
    elementText? body.toList name.toList = some text ↔ ∃ start stop inside,
      Begins body name start ∧ EndsFrom body name start stop ∧
        bytesOf inside = ((bytesOf body).drop start).take (stop - start) ∧
        text = strip isBlank inside.toList := by
  rw [elementText?_eq_some_iff]
  constructor
  · rintro ⟨before, after, inside, rest, opened, closed, rfl⟩
    obtain ⟨begins, ends⟩ := places_iff.mpr ⟨before, after, inside, rest, opened, closed, rfl, rfl⟩
    refine ⟨_, _, String.ofList inside, begins, ends, ?_, by rw [String.toList_ofList]⟩
    rw [(isValid_and_slice opened closed rfl rfl).2, bytesOf_eq, String.toList_ofList]
  · rintro ⟨start, stop, inside, begins, ends, slice, rfl⟩
    obtain ⟨before, after, between, rest, opened, closed, behind, last⟩ :=
      places_iff.mp ⟨begins, ends⟩
    rw [(isValid_and_slice opened closed behind last).2, bytesOf_eq] at slice
    exact ⟨before, after, between, rest, opened, closed, by rw [encode_injective slice]⟩

/-- The text of an element ends between two characters of the body, and not before it begins. -/
theorem EndsFrom.isValid (ends : EndsFrom body name start stop) (begins : Begins body name start) :
    start ≤ stop ∧ String.Pos.Raw.IsValid body ⟨stop⟩ := by
  obtain ⟨before, after, inside, rest, opened, closed, behind, last⟩ :=
    places_iff.mp ⟨begins, ends⟩
  exact ⟨last ▸ Nat.le_add_right _ _, (isValid_and_slice opened closed behind last).1⟩

end FileLease.Http
