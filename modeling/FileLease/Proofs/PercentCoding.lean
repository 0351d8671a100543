import FileLease.Proofs.NumeralWidths
import FileLease.Url.Path

/-!
# What is percent encoded, decoded

A text is read back from its percent encoding as the bytes of UTF-8, if percent signs are encoded
too. So an encoded text is a dot, two dots or the name of a drive only if the text itself is.
-/
namespace FileLease.Url
open Text

def decoded (segment : List Char) : List UInt8 :=
  decodeBytes (segment.flatMap String.utf8EncodeChar)

/-- A set that leaves only characters of ASCII as they are, and percent signs never. -/
def Reversible (set : Char → Bool) : Prop :=
  ∀ c, set c = false → c ≠ '%' ∧ c.toNat < 128

theorem reversible_inSegmentSet : Reversible inSegmentSet := by
  intro c out
  have visible : isControl c = false := by
    cases hc : isControl c with
    | false => rfl
    | true => simp [inSegmentSet, inPathSet, inFragmentSet, hc] at out
  refine ⟨?_, ?_⟩
  · rintro rfl
    simp [inSegmentSet] at out
  · simp only [isControl, Bool.or_eq_false_iff, decide_eq_false_iff_not] at visible
    omega

theorem decodeBytes_cons {b : UInt8} (h : b ≠ 37) (rest : List UInt8) :
    decodeBytes (b :: rest) = b :: decodeBytes rest := by
  rw [decodeBytes.eq_2]
  intro _ _ _ hb
  exact absurd hb h

theorem digitOfByte?_digit {n : Nat} (h : n < 16) :
    digitOfByte? (byteOf (Nat.digitChar n).toUpper) = some n := by
  have all : ∀ n < 16, digitOfByte? (byteOf (Nat.digitChar n).toUpper) = some n := by decide
  exact all n h

/-- A byte is written with its two digits. -/
theorem encodeByte_eq (b : UInt8) : encodeByte b =
    ['%', (Nat.digitChar (b.toNat / 16)).toUpper, (Nat.digitChar (b.toNat % 16)).toUpper] := by
  have high : b.toNat / 16 < 16 := by have := b.toNat_lt; omega
  rw [encodeByte, hexUpper_succ (by decide), hexUpper, hex, Nat.toDigits_of_lt_base high]
  rfl

theorem encode_encodeByte (b : UInt8) :
    (encodeByte b).flatMap String.utf8EncodeChar = (encodeByte b).map byteOf := by
  refine encode_of_ascii fun c hc => ?_
  rcases List.mem_cons.mp hc with rfl | hc
  · decide
  · have := plain_hexUpper 2 b.toNat c hc
    omega

theorem decodeBytes_encodeByte (b : UInt8) (rest : List UInt8) :
    decodeBytes ((encodeByte b).flatMap String.utf8EncodeChar ++ rest) = b :: decodeBytes rest := by
  have high : b.toNat / 16 < 16 := by have := b.toNat_lt; omega
  have low : b.toNat % 16 < 16 := Nat.mod_lt _ (by decide)
  have whole : (b.toNat / 16 * 16 + b.toNat % 16).toUInt8 = b := by
    rw [Nat.div_add_mod']
    exact UInt8.ofNat_toNat
  have percent : byteOf '%' = 37 := rfl
  rw [encode_encodeByte, encodeByte_eq]
  simp only [List.map_cons, List.map_nil, List.cons_append, List.nil_append, percent, decodeBytes,
    digitOfByte?_digit high, digitOfByte?_digit low, whole]

theorem decodeBytes_encodeBytes (bytes rest : List UInt8) :
    decodeBytes ((bytes.flatMap encodeByte).flatMap String.utf8EncodeChar ++ rest) =
      bytes ++ decodeBytes rest := by
  induction bytes with
  | nil => rfl
  | cons b bytes ih =>
    rw [List.flatMap_cons, List.flatMap_append, List.append_assoc, decodeBytes_encodeByte, ih]
    rfl

theorem byteOf_ne_percent {c : Char} (ascii : c.toNat < 128) (h : c ≠ '%') : byteOf c ≠ 37 := by
  intro same
  have same := congrArg UInt8.toNat same
  rw [toNat_byteOf ascii] at same
  exact h (Char.toNat_inj.mp same)

variable {set : Char → Bool}

/-- What is kept stands for itself, what is encoded is read back. -/
theorem decoded_encode (reversible : Reversible set) (s : List Char) :
    decoded (percentEncode set s) = s.flatMap String.utf8EncodeChar := by
  unfold decoded percentEncode
  induction s with
  | nil => rfl
  | cons c s ih =>
    rw [List.flatMap_cons, List.flatMap_append, List.flatMap_cons]
    cases hc : set c with
    | true => rw [if_pos rfl, encodeChar, decodeBytes_encodeBytes, ih]
    | false =>
      obtain ⟨other, ascii⟩ := reversible c hc
      rw [if_neg Bool.false_ne_true, List.flatMap_singleton, encodeChar_of_ascii ascii,
        List.singleton_append, decodeBytes_cons (byteOf_ne_percent ascii other), ih]
      rfl

def Clear (set : Char → Bool) (s : List Char) : Prop :=
  ∀ c ∈ s, set c = false

instance (set : Char → Bool) (s : List Char) : Decidable (Clear set s) :=
  List.decidableBAll (set · = false) s

theorem clear_append {s t : List Char} : Clear set (s ++ t) ↔ Clear set s ∧ Clear set t :=
  List.forall_mem_append

theorem Clear.mono {target : Char → Bool} {s : List Char} (h : Clear set s)
    (sub : ∀ c, set c = false → target c = false) : Clear target s :=
  fun c hc => sub c (h c hc)

theorem clear_decimal (digits : ∀ n < 58, 48 ≤ n → set (Char.ofNat n) = false) (n : Nat) :
    Clear set (decimal n) := by
  intro c hc
  have bounds := isDigit_bounds (isDigit_of_mem_decimal hc)
  have out := digits c.toNat (by omega) bounds.1
  rwa [Char.ofNat_toNat] at out

/-- No other characters come into an encoded text than those that the set keeps, percent signs and
digits. -/
theorem clear_encode {target : Char → Bool} {s : List Char}
    (kept : ∀ c ∈ s, set c = false → target c = false) (percent : target '%' = false)
    (digits : ∀ n < 16, target (Nat.digitChar n).toUpper = false) :
    Clear target (percentEncode set s) := by
  intro c hc
  obtain ⟨d, mem, hd⟩ := List.mem_flatMap.mp hc
  split at hd
  · obtain ⟨b, -, hb⟩ := List.mem_flatMap.mp hd
    have high : b.toNat / 16 < 16 := by have := b.toNat_lt; omega
    have low : b.toNat % 16 < 16 := Nat.mod_lt _ (by decide)
    rw [encodeByte_eq] at hb
    simp only [List.mem_cons, List.not_mem_nil, or_false] at hb
    obtain rfl | rfl | rfl := hb
    · exact percent
    · exact digits _ high
    · exact digits _ low
  · rename_i out
    rw [List.mem_singleton.mp hd]
    exact kept d mem (Bool.not_eq_true _ ▸ out)

theorem clear_encode_self (percent : set '%' = false)
    (digits : ∀ n < 16, set (Nat.digitChar n).toUpper = false) (s : List Char) :
    Clear set (percentEncode set s) :=
  clear_encode (fun _ _ h => h) percent digits

theorem percentEncode_of_clear {s : List Char} (h : Clear set s) : percentEncode set s = s := by
  induction s with
  | nil => rfl
  | cons c s ih =>
    rw [percentEncode, List.flatMap_cons, ← percentEncode, ih fun d hd => h d (.tail c hd),
      h c (.head s)]
    rfl

/-- Different texts are encoded as different segments. -/
theorem percentEncode_injective (reversible : Reversible set) {s t : List Char}
    (h : percentEncode set s = percentEncode set t) : s = t :=
  encode_injective (by rw [← decoded_encode reversible, h, decoded_encode reversible])

theorem toLower_eq {c d : Char} (h : c.toLower = d) :
    c = d ∨ 65 ≤ c.toNat ∧ c.toNat ≤ 90 ∧ d.toNat = c.toNat + 32 := by
  unfold Char.toLower at h
  split at h
  · rename_i upper
    right
    have low : 65 ≤ c.val.toNat := upper.1
    have high : c.val.toNat ≤ 90 := upper.2
    refine ⟨low, high, ?_⟩
    rw [← h]
    show (c.val + ('a'.val - 'A'.val)).toNat = c.val.toNat + 32
    rw [UInt32.toNat_add, show ('a'.val - 'A'.val).toNat = 32 from rfl]
    omega
  · exact .inl h

/-- Only letters have another lower case than themselves. -/
theorem toLower_eq_self {c d : Char} (h : c.toLower = d) (hd : d.toNat < 97) : c = d := by
  obtain rfl | ⟨low, high, lower⟩ := toLower_eq h
  · rfl
  · omega

theorem toLower_eq_e {c : Char} (h : c.toLower = 'e') : c = 'e' ∨ c = 'E' := by
  obtain rfl | ⟨low, high, lower⟩ := toLower_eq h
  · exact .inl rfl
  · have upper : c.toNat = 'E'.toNat := Nat.add_right_cancel lower.symm
    exact .inr (Char.toNat_inj.mp upper)

theorem isDot_eq {s : List Char} (h : isDot s = true) :
    s = ['.'] ∨ s = ['%', '2', 'e'] ∨ s = ['%', '2', 'E'] := by
  simp only [isDot, Bool.or_eq_true, beq_iff_eq] at h
  rcases h with rfl | h
  · exact .inl rfl
  · obtain ⟨a, rest, rfl, ha, h⟩ := List.map_eq_cons_iff.mp h
    obtain ⟨b, rest, rfl, hb, h⟩ := List.map_eq_cons_iff.mp h
    obtain ⟨c, rest, rfl, hc, h⟩ := List.map_eq_cons_iff.mp h
    obtain rfl := List.map_eq_nil_iff.mp h
    obtain rfl := toLower_eq_self ha (by decide)
    obtain rfl := toLower_eq_self hb (by decide)
    obtain rfl | rfl := toLower_eq_e hc
    · exact .inr (.inl rfl)
    · exact .inr (.inr rfl)

theorem decodeBytes_dot {s : List Char} (h : isDot s = true) (rest : List UInt8) :
    decodeBytes (s.flatMap String.utf8EncodeChar ++ rest) = 46 :: decodeBytes rest := by
  obtain rfl | rfl | rfl := isDot_eq h
  · exact decodeBytes_cons (by decide) rest
  · rfl
  · rfl

theorem decoded_dot {s : List Char} (h : isDot s = true) : decoded s = [46] := by
  have := decodeBytes_dot h []
  rwa [List.append_nil] at this

theorem decoded_doubleDot {s : List Char} (h : isDoubleDot s = true) : decoded s = [46, 46] := by
  simp only [isDoubleDot, List.any_eq_true, Bool.and_eq_true] at h
  obtain ⟨n, -, first, second⟩ := h
  rw [decoded, ← List.take_append_drop n s, List.flatMap_append, decodeBytes_dot first]
  exact congrArg _ (decoded_dot second)

theorem isDot_encode (s : List Char) :
    isDot (percentEncode inSegmentSet s) = true ↔ s = ['.'] := by
  refine ⟨fun h => encode_injective ?_, ?_⟩
  · rw [← decoded_encode reversible_inSegmentSet, decoded_dot h]
    rfl
  · rintro rfl
    decide

theorem isDoubleDot_encode (s : List Char) :
    isDoubleDot (percentEncode inSegmentSet s) = true ↔ s = ['.', '.'] := by
  refine ⟨fun h => encode_injective ?_, ?_⟩
  · rw [← decoded_encode reversible_inSegmentSet, decoded_doubleDot h]
    rfl
  · rintro rfl
    decide

theorem inSegmentSet_of_isAlpha {c : Char} (h : c.isAlpha = true) : inSegmentSet c = false := by
  have ascii : c.toNat < 123 := by
    rcases (Bool.or_eq_true c.isUpper c.isLower).mp h with upper | lower
    · have high : c.toNat ≤ 90 := (of_decide_eq_true upper).2
      omega
    · have bounds : (decide (c.val ≥ 'a'.val) && decide (c.val ≤ 'z'.val)) = true := lower
      have high : c.toNat ≤ 122 := of_decide_eq_true ((Bool.and_eq_true _ _).mp bounds).2
      omega
  have letters : ∀ n < 123, (Char.ofNat n).isAlpha = true →
      inSegmentSet (Char.ofNat n) = false := by decide
  have kept := letters c.toNat ascii
  rw [Char.ofNat_toNat] at kept
  exact kept h

/-- The name of a drive is kept as it is. -/
theorem percentEncode_drive {s : List Char} (h : isDriveLetter s = true) :
    percentEncode inSegmentSet s = s := by
  unfold isDriveLetter at h
  split at h
  · rename_i c d
    simp only [Bool.and_eq_true, Bool.or_eq_true, decide_eq_true_eq] at h
    have kept : inSegmentSet d = false := by
      obtain ⟨-, rfl | rfl⟩ := h <;> decide
    exact percentEncode_of_clear (by simp [Clear, inSegmentSet_of_isAlpha h.1, kept])
  · cases h

theorem isDriveLetter_encode (s : List Char) :
    isDriveLetter (percentEncode inSegmentSet s) = isDriveLetter s := by
  rw [Bool.eq_iff_iff]
  constructor
  · intro h
    have same := percentEncode_injective reversible_inSegmentSet (percentEncode_drive h)
    rwa [same] at h
  · intro h
    rwa [percentEncode_drive h]

end FileLease.Url
