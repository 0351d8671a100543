import FileLease.Proofs.FoundPieces
import FileLease.Proofs.PercentCoding
import FileLease.Url.Form
import Mathlib.Data.List.TakeWhile

/-!
# Queries of names and values

The names and values of a query are those of its parts between `&`. They stay the same when the
query is percent encoded once more: what is encoded in it is not encoded again, and neither the
signs between names and values nor digits behind a percent sign are touched.
-/
namespace FileLease.Url
open Text

variable {sep c : Char} {x y : List UInt8} {a b : UInt8}

/-- Some bytes of a text are encoded, but no digits and no percent signs. -/
inductive Recoded : List UInt8 → List UInt8 → Prop
  | nil : Recoded [] []
  | kept (b : UInt8) {x y : List UInt8} (rest : Recoded x y) : Recoded (b :: x) (b :: y)
  | coded {b : UInt8} {x y : List UInt8} (percent : b ≠ 37) (digit : digitOfByte? b = none)
      (rest : Recoded x y) :
      Recoded (b :: x) ((encodeByte b).flatMap String.utf8EncodeChar ++ y)

theorem encodeByte_bytes (b : UInt8) : ∃ high low,
    (encodeByte b).flatMap String.utf8EncodeChar = [37, high, low] := by
  rw [encode_encodeByte, encodeByte_eq]
  exact ⟨_, _, rfl⟩

theorem Recoded.percent (h : Recoded (37 :: x) y) : ∃ y', y = 37 :: y' ∧ Recoded x y' := by
  cases h with
  | kept _ rest => exact ⟨_, rfl, rest⟩
  | coded percent => exact absurd rfl percent

theorem Recoded.digit (h : Recoded (a :: x) y) (digit : (digitOfByte? a).isSome) :
    ∃ y', y = a :: y' ∧ Recoded x y' := by
  cases h with
  | kept _ rest => exact ⟨_, rfl, rest⟩
  | coded _ none =>
    rw [none] at digit
    cases digit

/-- A digit is there before, if it is there after. -/
theorem Recoded.digit_before (h : Recoded x (a :: y)) (digit : (digitOfByte? a).isSome) :
    ∃ x', x = a :: x' ∧ Recoded x' y := by
  generalize whole : a :: y = z at h
  cases h with
  | nil => cases whole
  | kept b rest =>
    obtain ⟨rfl, rfl⟩ := List.cons.inj whole
    exact ⟨_, rfl, rest⟩
  | @coded b _ _ _ _ rest =>
    -- an encoded byte begins with a percent sign
    obtain ⟨high, low, bytes⟩ := encodeByte_bytes b
    rw [bytes] at whole
    obtain rfl := (List.cons.inj whole).1
    cases digit

/-- Two digits come first, so that a percent sign in front of them makes a byte. -/
def TwoDigits (x : List UInt8) : Prop :=
  ∃ a b rest, x = a :: b :: rest ∧ (digitOfByte? a).isSome ∧ (digitOfByte? b).isSome

theorem Recoded.twoDigits (h : Recoded x y) (digits : TwoDigits y) : TwoDigits x := by
  obtain ⟨a, b, rest, rfl, ha, hb⟩ := digits
  obtain ⟨x', rfl, h'⟩ := h.digit_before ha
  obtain ⟨x'', rfl, -⟩ := h'.digit_before hb
  exact ⟨a, b, x'', rfl, ha, hb⟩

/-- A percent sign without two digits behind it stands for itself. -/
theorem decodeBytes_percent (h : ¬ TwoDigits x) : decodeBytes (37 :: x) = 37 :: decodeBytes x := by
  rw [decodeBytes.eq_def]
  split
  · rename_i a b rest whole
    obtain rfl := (List.cons.inj whole).2
    split
    · rename_i m n hm hn
      exact absurd ⟨a, b, rest, rfl, hm ▸ rfl, hn ▸ rfl⟩ h
    · rfl
  · rename_i whole
    obtain ⟨rfl, rfl⟩ := List.cons.inj whole
    rfl
  · rename_i whole
    cases whole

/-- Both stand for the same bytes. The cases are those of reading them. -/
theorem Recoded.decodeBytes_eq (h : Recoded x y) : decodeBytes y = decodeBytes x := by
  induction x using decodeBytes.induct generalizing y with
  | case1 a b rest m n hn hm ih =>
    obtain ⟨y₁, rfl, h₁⟩ := h.percent
    obtain ⟨y₂, rfl, h₂⟩ := h₁.digit (by rw [hm]; rfl)
    obtain ⟨y₃, rfl, h₃⟩ := h₂.digit (by rw [hn]; rfl)
    simp only [decodeBytes, hm, hn, ih h₃]
  | case2 a b rest none ih =>
    have digits : ¬ TwoDigits (a :: b :: rest) := by
      rintro ⟨a, b, rest, whole, ha, hb⟩
      cases whole
      exact none _ _ (Option.some_get ha).symm (Option.some_get hb).symm
    obtain ⟨y₁, rfl, h₁⟩ := h.percent
    rw [decodeBytes_percent digits, decodeBytes_percent fun later => digits (h₁.twoDigits later),
      ih h₁]
  | case3 b rest short ih =>
    cases h with
    | coded percent _ later => rw [decodeBytes_encodeByte, decodeBytes_cons percent, ih later]
    | kept _ later =>
      by_cases hb : b = 37
      · subst hb
        have digits : ¬ TwoDigits rest := by
          rintro ⟨_, _, _, whole, -, -⟩
          exact short _ _ _ rfl whole
        rw [decodeBytes_percent digits,
          decodeBytes_percent fun after => digits (later.twoDigits after), ih later]
      · rw [decodeBytes_cons hb, decodeBytes_cons hb, ih later]
  | case4 =>
    cases h
    rfl

theorem Recoded.kept_bytes (h : Recoded x y) (bytes : List UInt8) :
    Recoded (bytes ++ x) (bytes ++ y) := by
  induction bytes with
  | nil => exact h
  | cons b bytes ih => exact .kept b ih

theorem Recoded.coded_bytes (h : Recoded x y) {bytes : List UInt8}
    (other : ∀ b ∈ bytes, b ≠ 37 ∧ digitOfByte? b = none) :
    Recoded (bytes ++ x) ((bytes.flatMap encodeByte).flatMap String.utf8EncodeChar ++ y) := by
  induction bytes with
  | nil => exact h
  | cons b bytes ih =>
    obtain ⟨⟨percent, digit⟩, other⟩ := List.forall_mem_cons.mp other
    rw [List.flatMap_cons, List.flatMap_append, List.append_assoc]
    exact .coded percent digit (ih other)

/-- Percent signs, plus signs and digits are kept in a query. -/
theorem of_inQuerySet (h : inQuerySet c = true) :
    c ≠ '+' ∧ ∀ b ∈ String.utf8EncodeChar c, b ≠ 37 ∧ digitOfByte? b = none := by
  refine ⟨fun plus => absurd (plus ▸ h) (by decide), fun b hb => ?_⟩
  by_cases wide : 128 ≤ c.toNat
  · have beyond : ∀ n < 256, 128 ≤ n → hexValue? (Char.ofNat n) = none := by decide +kernel
    have wide := le_of_mem_encodeChar wide hb
    refine ⟨?_, beyond b.toNat b.toNat_lt wide⟩
    rintro rfl
    exact absurd wide (by decide)
  · have ascii : ∀ n < 128, inQuerySet (Char.ofNat n) = true →
        n ≠ 37 ∧ hexValue? (Char.ofNat n) = none := by decide
    have low : c.toNat < 128 := by omega
    rw [encodeChar_of_ascii low, List.mem_singleton] at hb
    obtain ⟨percent, digit⟩ := ascii c.toNat low (by rwa [Char.ofNat_toNat])
    subst hb
    refine ⟨fun same => percent ?_, ?_⟩
    · rw [← toNat_byteOf low, same]
      rfl
    · rwa [digitOfByte?, toNat_byteOf low]

theorem not_mem_encodeChar (percent : sep ≠ '%')
    (digits : ∀ n < 16, (Nat.digitChar n).toUpper ≠ sep) (c : Char) : sep ∉ encodeChar c := by
  have clear : Clear (· = sep) (percentEncode (fun _ => true) [c]) :=
    clear_encode (fun _ _ h => nomatch h) (by simpa using percent.symm) (by simpa using digits)
  intro hc
  simpa using clear sep (by simpa [percentEncode] using hc)

/-- What a name or a value is meant to be does not change. -/
theorem formDecode_encode (s : List Char) :
    formDecode (percentEncode inQuerySet s) = formDecode s := by
  unfold formDecode
  refine Recoded.decodeBytes_eq ?_
  induction s with
  | nil => exact .nil
  | cons c s ih =>
    rw [percentEncode, List.flatMap_cons, ← percentEncode, List.map_append, List.flatMap_append,
      List.map_cons, List.flatMap_cons]
    cases hc : inQuerySet c with
    | false =>
      rw [if_neg Bool.false_ne_true, List.map_singleton, List.flatMap_singleton]
      exact ih.kept_bytes _
    | true =>
      obtain ⟨plus, other⟩ := of_inQuerySet hc
      have same : (encodeChar c).map (fun c => if c = '+' then ' ' else c) = encodeChar c := by
        refine (List.map_congr_left fun d hd => if_neg ?_).trans (List.map_id _)
        rintro rfl
        exact not_mem_encodeChar (by decide) (by decide) c hd
      rw [if_pos rfl, same, if_neg plus, encodeChar]
      exact ih.coded_bytes other

theorem percentEncode_append (set : Char → Bool) (s t : List Char) :
    percentEncode set (s ++ t) = percentEncode set s ++ percentEncode set t :=
  List.flatMap_append

theorem not_mem_encode {s : List Char} (away : sep ∉ s) (percent : sep ≠ '%')
    (digits : ∀ n < 16, (Nat.digitChar n).toUpper ≠ sep) : sep ∉ percentEncode inQuerySet s := by
  intro h
  obtain ⟨c, mem, hc⟩ := List.mem_flatMap.mp h
  split at hc
  · exact not_mem_encodeChar percent digits c hc
  · exact away (List.mem_singleton.mp hc ▸ mem)

theorem encodeChar_ne_nil (c : Char) : encodeChar c ≠ [] := by
  intro h
  have none : String.utf8EncodeChar c = [] := List.eq_nil_iff_forall_not_mem.mpr fun b hb =>
    absurd (List.flatMap_eq_nil_iff.mp h b hb) (List.cons_ne_nil _ _)
  have length := String.length_utf8EncodeChar c
  rw [none, List.length_nil] at length
  exact absurd length (Nat.ne_of_lt c.utf8Size_pos)

theorem percentEncode_ne_nil {set : Char → Bool} {s : List Char} (ne : s ≠ []) :
    percentEncode set s ≠ [] := by
  obtain ⟨c, s, rfl⟩ := List.exists_cons_of_ne_nil ne
  intro h
  have first := List.flatMap_eq_nil_iff.mp h c List.mem_cons_self
  split at first
  · exact encodeChar_ne_nil c first
  · cases first

theorem formEntry_append {name : List Char} (away : '=' ∉ name) (value : List Char) :
    formEntry (name ++ '=' :: value) = (formDecode name, formDecode value) := by
  have run := run_of_not_mem away
  rw [formEntry, takeWhile_run run rfl, dropWhile_run run rfl, List.drop_one, List.tail_cons]

theorem formEntry_of_name {name : List Char} (away : '=' ∉ name) :
    formEntry name = (formDecode name, []) := by
  have run := run_of_not_mem away
  rw [formEntry, List.takeWhile_eq_self_iff.mpr run, List.dropWhile_eq_nil_iff.mpr run]
  rfl

theorem formEntry_encode (piece : List Char) :
    formEntry (percentEncode inQuerySet piece) = formEntry piece := by
  by_cases h : '=' ∈ piece
  · obtain ⟨name, value, rfl, away⟩ := List.eq_append_cons_of_mem h
    have later : percentEncode inQuerySet ('=' :: value) = '=' :: percentEncode inQuerySet value :=
      rfl
    rw [percentEncode_append, later, formEntry_append (not_mem_encode away (by decide) (by decide)),
      formEntry_append away, formDecode_encode, formDecode_encode]
  · rw [formEntry_of_name (not_mem_encode h (by decide) (by decide)), formEntry_of_name h,
      formDecode_encode]

theorem formPairs_nil : formPairs [] = [] := by
  decide

theorem formPairs_of_piece {piece : List Char} (away : '&' ∉ piece) (ne : piece ≠ []) :
    formPairs piece = [formEntry piece] := by
  rw [formPairs, List.splitOn_eq_singleton away]
  simp [ne]

/-- The parts of a query between `&` are queries of their own. -/
theorem formPairs_append (before after : List Char) :
    formPairs (before ++ '&' :: after) = formPairs before ++ formPairs after := by
  rw [formPairs, List.splitOn_append_cons_self, List.filter_append, List.map_append]
  rfl

theorem formPairs_appendPair (query : Option (List Char)) (name value : String) :
    formPairs (appendPair query name value) =
      formPairs (query.getD []) ++ formPairs (formPair name value) := by
  unfold appendPair
  split
  · rename_i empty
    rw [empty, formPairs_nil, List.nil_append]
  · exact formPairs_append _ _

def isFormSign (c : Char) : Bool :=
  c = '&' || c = '=' || c = '+' || c = '%' || 128 ≤ c.toNat

theorem formDecode_of_clear {s : List Char} (h : Clear isFormSign s) :
    formDecode s = s.flatMap String.utf8EncodeChar := by
  unfold formDecode
  induction s with
  | nil => rfl
  | cons c s ih =>
    obtain ⟨hc, h⟩ := List.forall_mem_cons.mp h
    simp only [isFormSign, Bool.or_eq_false_iff, decide_eq_false_iff_not] at hc
    have ascii : c.toNat < 128 := by omega
    rw [List.map_cons, if_neg hc.1.1.2, List.flatMap_cons, List.flatMap_cons,
      encodeChar_of_ascii ascii, List.singleton_append,
      decodeBytes_cons (byteOf_ne_percent ascii hc.1.2), ih h]
    rfl

theorem formPairs_formPair {name value : String} (hn : Clear isFormSign name.toList)
    (hv : Clear isFormSign value.toList) :
    formPairs (formPair name value) = [(bytesOf name, bytesOf value)] := by
  have ampersand : '&' ∉ formPair name value := by
    rw [formPair, List.mem_append, List.mem_cons]
    rintro (mem | mem | mem)
    · cases hn '&' mem
    · cases mem
    · cases hv '&' mem
  have equals : '=' ∉ name.toList := fun mem => by cases hn '=' mem
  have ne : formPair name value ≠ [] := List.append_ne_nil_of_right_ne_nil _ (List.cons_ne_nil _ _)
  rw [formPairs_of_piece ampersand ne, formPair, formEntry_append equals, formDecode_of_clear hn,
    formDecode_of_clear hv, bytesOf_eq, bytesOf_eq]

theorem formPairs_encode_piece {piece : List Char} (away : '&' ∉ piece) :
    formPairs (percentEncode inQuerySet piece) = formPairs piece := by
  by_cases ne : piece = []
  · rw [ne]
    rfl
  · rw [formPairs_of_piece (not_mem_encode away (by decide) (by decide))
      (percentEncode_ne_nil ne), formPairs_of_piece away ne, formEntry_encode]

/-- A query that is encoded once more has the same names and values. The induction is on its
length, and each step goes over one `&`. -/
theorem formPairs_encode (query : List Char) :
    formPairs (percentEncode inQuerySet query) = formPairs query := by
  induction length : query.length using Nat.strongRecOn generalizing query with
  | ind n ih =>
    by_cases h : '&' ∈ query
    · obtain ⟨piece, rest, rfl, away⟩ := List.eq_append_cons_of_mem h
      have shorter : rest.length < n := by
        rw [← length, List.length_append, List.length_cons]
        omega
      have later : percentEncode inQuerySet ('&' :: rest) = '&' :: percentEncode inQuerySet rest :=
        rfl
      rw [percentEncode_append, later, formPairs_append, formPairs_append,
        formPairs_encode_piece away, ih rest.length shorter rest rfl]
    · exact formPairs_encode_piece h

end FileLease.Url
