import FileLease.Guid
import FileLease.Proofs.FoundPieces

/-!
# GUIDs as texts

A GUID is 36 bytes that are read as sixteen in one of the usual forms, and only the form in groups
has that many. A lease id is read as the bytes that it was made from, but for six bits.
-/
namespace FileLease.Guid
open Text

variable {s : List Char} {c : Char}

def hexDigits : List Char := "0123456789abcdefABCDEF".toList

theorem toNat_lt_of_isHexDigit (h : isHexDigit c = true) : c.toNat < 128 := by
  unfold isHexDigit hexValue? at h
  split at h
  next bounds => exact Nat.lt_of_le_of_lt (show c.toNat ≤ 57 from bounds.2) (by decide)
  split at h
  next bounds => exact Nat.lt_of_le_of_lt (show c.toNat ≤ 102 from bounds.2) (by decide)
  split at h
  next bounds => exact Nat.lt_of_le_of_lt (show c.toNat ≤ 70 from bounds.2) (by decide)
  next => cases h

theorem isHexDigit_iff : isHexDigit c = true ↔ c ∈ hexDigits := by
  have ascii : ∀ n < 128, isHexDigit (Char.ofNat n) = true → Char.ofNat n ∈ hexDigits := by
    decide +kernel
  have all : hexDigits.all isHexDigit = true := by decide +kernel
  refine ⟨fun h => ?_, List.all_eq_true.mp all c⟩
  have digit := ascii c.toNat (toNat_lt_of_isHexDigit h)
  rw [Char.ofNat_toNat] at digit
  exact digit h

theorem plain_hexDigits : Plain hexDigits := by
  decide +kernel

theorem plain_of_digits (h : ∀ c ∈ s, c ∈ hexDigits) : Plain s :=
  fun c hc => plain_hexDigits c (h c hc)

theorem length_bytesOf_of_plain {s : String} (h : Plain s.toList) :
    (bytesOf s).length = s.toList.length := by
  rw [bytesOf_plain h, List.length_map]

theorem length_le_bytesOf (s : String) : s.toList.length ≤ (bytesOf s).length := by
  rw [bytesOf_eq]
  induction s.toList with
  | nil => exact Nat.le_refl 0
  | cons c s ih =>
    have := c.utf8Size_pos
    rw [List.flatMap_cons, List.length_append, String.length_utf8EncodeChar, List.length_cons]
    omega

def Digits (n : Nat) (s : List Char) : Prop :=
  s.length = n ∧ ∀ c ∈ s, c ∈ hexDigits

/-- Groups of 8, 4, 4, 4 and 12 digits with hyphens between them, and nothing else. -/
def Grouped (s : List Char) : Prop :=
  ∃ a b c d e, Digits 8 a ∧ Digits 4 b ∧ Digits 4 c ∧ Digits 4 d ∧ Digits 12 e ∧
    s = a ++ '-' :: (b ++ '-' :: (c ++ '-' :: (d ++ '-' :: e)))

theorem grouped_iff : Grouped s ↔ ∃ parts : List (List Char),
    parts.map List.length = groups ∧ (∀ part ∈ parts, ∀ c ∈ part, c ∈ hexDigits) ∧
      s = ['-'].intercalate parts := by
  constructor
  · rintro ⟨a, b, c, d, e, ⟨ha, da⟩, ⟨hb, db⟩, ⟨hc, dc⟩, ⟨hd, dd⟩, ⟨he, de⟩, whole⟩
    refine ⟨[a, b, c, d, e], by simp [groups, ha, hb, hc, hd, he], ?_, ?_⟩
    · simp only [List.forall_mem_cons]
      exact ⟨da, db, dc, dd, de, List.forall_mem_nil _⟩
    · simpa [List.intercalate] using whole
  · rintro ⟨parts, lengths, digits, whole⟩
    simp only [groups, List.map_eq_cons_iff, List.map_eq_nil_iff] at lengths
    obtain ⟨a, _, rfl, ha, b, _, rfl, hb, c, _, rfl, hc, d, _, rfl, hd, e, _, rfl, he, rfl⟩ :=
      lengths
    simp only [List.forall_mem_cons] at digits
    obtain ⟨da, db, dc, dd, de, -⟩ := digits
    refine ⟨a, b, c, d, e, ⟨ha, da⟩, ⟨hb, db⟩, ⟨hc, dc⟩, ⟨hd, dd⟩, ⟨he, de⟩, ?_⟩
    simpa [List.intercalate] using whole

/-- Digits do not run into the hyphens between their groups. -/
theorem splitOn_groups {parts : List (List Char)} (lengths : parts.map List.length = groups)
    (digits : ∀ part ∈ parts, ∀ c ∈ part, c ∈ hexDigits) :
    (['-'].intercalate parts).splitOn '-' = parts := by
  have other : '-' ∉ hexDigits := by decide +kernel
  refine List.splitOn_intercalate '-' (fun part h mem => other (digits part h '-' mem)) ?_
  rintro rfl
  cases lengths

theorem isGuid_iff {s : String} : isGuid s = true ↔ Grouped s.toList := by
  simp only [isGuid, Bool.and_eq_true, beq_iff_eq, List.all_eq_true, isHexDigit_iff, grouped_iff]
  constructor
  · rintro ⟨lengths, digits⟩
    exact ⟨_, lengths, digits, (List.intercalate_splitOn '-').symm⟩
  · rintro ⟨parts, lengths, digits, whole⟩
    rw [whole, splitOn_groups lengths digits]
    exact ⟨lengths, digits⟩

theorem plain_of_isGuid {s : String} (h : isGuid s = true) : Plain s.toList := by
  obtain ⟨a, b, c, d, e, ha, hb, hc, hd, he, whole⟩ := isGuid_iff.mp h
  simp [whole, plain_of_digits ha.2, plain_of_digits hb.2, plain_of_digits hc.2,
    plain_of_digits hd.2, plain_of_digits he.2]

theorem length_of_isGuid {s : String} (h : isGuid s = true) : s.toList.length = 36 := by
  obtain ⟨a, b, c, d, e, ha, hb, hc, hd, he, whole⟩ := isGuid_iff.mp h
  simp [whole, ha.1, hb.1, hc.1, hd.1, he.1]

theorem ne_empty_of_isGuid {s : String} (h : isGuid s = true) : s ≠ "" := by
  rintro rfl
  cases length_of_isGuid h

theorem isSome_hexValue? : (hexValue? c).isSome = true ↔ c ∈ hexDigits :=
  isHexDigit_iff

theorem isSome_readBytes? (even : s.length % 2 = 0) :
    (readBytes? s).isSome = true ↔ ∀ c ∈ s, c ∈ hexDigits := by
  fun_induction readBytes? s with
  | case1 => simp
  | case2 c => cases even
  | case3 a b rest ih =>
    simp only [List.length_cons] at even
    have ih := ih (by omega)
    rw [List.forall_mem_cons, List.forall_mem_cons, ← ih, ← isSome_hexValue?, ← isSome_hexValue?]
    cases hexValue? a <;> cases hexValue? b <;> cases readBytes? rest <;> simp

/-- A text is a GUID if the digits in its groups are read. -/
theorem isGuid_eq_isSome (s : String) :
    isGuid s = ((ungroup? s.toList).bind readBytes?).isSome := by
  by_cases lengths : (s.toList.splitOn '-').map List.length = groups
  · have even : (s.toList.splitOn '-').flatten.length % 2 = 0 := by
      rw [List.length_flatten, lengths]
      rfl
    have flat : (∀ part ∈ s.toList.splitOn '-', ∀ c ∈ part, c ∈ hexDigits) ↔
        ∀ c ∈ (s.toList.splitOn '-').flatten, c ∈ hexDigits := by
      simp only [List.mem_flatten]
      exact ⟨fun h c ⟨part, hp, hc⟩ => h part hp c hc, fun h part hp c hc => h c ⟨part, hp, hc⟩⟩
    rw [Bool.eq_iff_iff, ungroup?, if_pos lengths, Option.bind_some, isSome_readBytes? even, ← flat]
    simp only [isGuid, lengths, beq_self_eq_true, Bool.true_and, List.all_eq_true, isHexDigit_iff]
  · simp [isGuid, ungroup?, lengths]

theorem unwrap?_of_length (h : s.length = 36) : unwrap? s = some s := by
  rw [unwrap?, if_pos h]

/-- Of the usual forms one alone has 36 bytes. -/
theorem isGuid_iff_read? {s : String} :
    isGuid s = true ↔ (bytesOf s).length = 36 ∧ (read? s).isSome = true := by
  constructor
  · intro h
    have length := length_of_isGuid h
    refine ⟨by rw [length_bytesOf_of_plain (plain_of_isGuid h), length], ?_⟩
    rw [read?, if_neg (by omega), unwrap?_of_length length, Option.bind_some, ← isGuid_eq_isSome]
    exact h
  · rintro ⟨size, h⟩
    have short := length_le_bytesOf s
    rw [size] at short
    unfold read? at h
    split at h
    next length =>
      -- digits alone are too few bytes
      have digits := (isSome_readBytes? (by omega)).mp h
      rw [length_bytesOf_of_plain (plain_of_digits digits)] at size
      omega
    next =>
      have length : s.toList.length = 36 := by
        refine Decidable.byContradiction fun other => ?_
        rw [unwrap?, if_neg other, if_neg (by omega), if_neg (by omega)] at h
        cases h
      rw [unwrap?_of_length length, Option.bind_some, ← isGuid_eq_isSome] at h
      exact h

theorem hexByte_eq (b : UInt8) : ∃ m n, m < 16 ∧ n < 16 ∧ b.toNat = 16 * m + n ∧
    hexByte b = [Nat.digitChar m, Nat.digitChar n] := by
  have := b.toNat_lt
  exact ⟨b.toNat / 16, b.toNat % 16, by omega, by omega, by omega, rfl⟩

theorem readBytes?_hexByte (bytes : List UInt8) :
    readBytes? (bytes.flatMap hexByte) = some bytes := by
  induction bytes with
  | nil => rfl
  | cons b bytes ih =>
    obtain ⟨m, n, hm, hn, value, digits⟩ := hexByte_eq b
    have byte : (16 * m + n).toUInt8 = b := by
      rw [← value]
      exact UInt8.ofNat_toNat
    rw [List.flatMap_cons, digits, List.cons_append, List.cons_append, List.nil_append, readBytes?]
    rw [hexValue?_digitChar m hm, hexValue?_digitChar n hn, ih]
    simp only [Option.bind_eq_bind, Option.bind_some, byte]
    rfl

theorem mem_hexDigits_digitChar : ∀ d < 16,
    Nat.digitChar d ∈ hexDigits ∧ (Nat.digitChar d).isUpper = false := by
  decide +kernel

/-- Bytes are written in lower-case digits. -/
theorem of_mem_hexByte {bytes : List UInt8} (h : c ∈ bytes.flatMap hexByte) :
    c ∈ hexDigits ∧ c.isUpper = false := by
  obtain ⟨b, -, h⟩ := List.mem_flatMap.mp h
  obtain ⟨m, n, hm, hn, -, digits⟩ := hexByte_eq b
  rw [digits] at h
  simp only [List.mem_cons, List.not_mem_nil, or_false] at h
  obtain rfl | rfl := h
  · exact mem_hexDigits_digitChar m hm
  · exact mem_hexDigits_digitChar n hn

theorem length_flatMap_hexByte (bytes : List UInt8) :
    (bytes.flatMap hexByte).length = 2 * bytes.length := by
  induction bytes with
  | nil => rfl
  | cons b bytes ih =>
    rw [List.flatMap_cons, List.length_append, ih, List.length_cons, hexByte, List.length_cons,
      List.length_singleton]
    omega

variable {bytes : Vector UInt8 16}

/-- What is cut into pieces of the given lengths, which are those of the whole. -/
theorem cut_spec (lengths : List Nat) (s : List Char)
    (whole : s.length = lengths.foldr (· + ·) 0) :
    (cut lengths s).map List.length = lengths ∧ (cut lengths s).flatten = s := by
  induction lengths generalizing s with
  | nil => exact ⟨rfl, (List.length_eq_zero_iff.mp whole).symm⟩
  | cons n lengths ih =>
    rw [List.foldr_cons] at whole
    obtain ⟨pieces, rest⟩ := ih (s.drop n) (by rw [List.length_drop]; omega)
    rw [cut, List.map_cons, List.flatten_cons, pieces, rest, List.length_take,
      List.take_append_drop, Nat.min_eq_left (by omega)]
    exact ⟨rfl, rfl⟩

/-- The text of some bytes has their digits in groups. -/
theorem splitOn_render (bytes : Vector UInt8 16) :
    ((render bytes).toList.splitOn '-').map List.length = groups ∧
      ((render bytes).toList.splitOn '-').flatten = bytes.toList.flatMap hexByte := by
  have length : (bytes.toList.flatMap hexByte).length = groups.foldr (· + ·) 0 := by
    rw [length_flatMap_hexByte, Vector.length_toList]
    rfl
  obtain ⟨lengths, whole⟩ := cut_spec groups _ length
  have digits : ∀ part ∈ cut groups (bytes.toList.flatMap hexByte), ∀ c ∈ part,
      c ∈ hexDigits := by
    intro part hp c hc
    have mem := List.mem_flatten.mpr ⟨part, hp, hc⟩
    rw [whole] at mem
    exact (of_mem_hexByte mem).1
  rw [render, String.toList_ofList, splitOn_groups lengths digits]
  exact ⟨lengths, whole⟩

theorem ungroup?_render (bytes : Vector UInt8 16) :
    ungroup? (render bytes).toList = some (bytes.toList.flatMap hexByte) := by
  obtain ⟨lengths, whole⟩ := splitOn_render bytes
  rw [ungroup?, if_pos lengths, whole]

theorem isGuid_render (bytes : Vector UInt8 16) : isGuid (render bytes) = true := by
  rw [isGuid_eq_isSome, ungroup?_render, Option.bind_some, readBytes?_hexByte]
  rfl

/-- Bytes are read back from their text. -/
theorem read?_render (bytes : Vector UInt8 16) : read? (render bytes) = some bytes.toList := by
  have length := length_of_isGuid (isGuid_render bytes)
  rw [read?, if_neg (by omega), unwrap?_of_length length, Option.bind_some, ungroup?_render,
    Option.bind_some, readBytes?_hexByte]

theorem render_injective {bytes bytes' : Vector UInt8 16} (h : render bytes = render bytes') :
    bytes = bytes' := by
  have read := read?_render bytes
  rw [h, read?_render] at read
  exact (Vector.toList_inj.mp (Option.some.inj read)).symm

theorem lower_render (bytes : Vector UInt8 16) :
    ∀ c ∈ (render bytes).toList, c.isUpper = false := by
  intro c hc
  obtain rfl | ⟨part, hp, hc⟩ := mem_splitOn '-' hc
  · decide
  · have mem := List.mem_flatten.mpr ⟨part, hp, hc⟩
    rw [(splitOn_render bytes).2] at mem
    exact (of_mem_hexByte mem).2

/-- A bit of a byte, the highest being bit 7. -/
def bit (bytes : Vector UInt8 16) (i : Fin 16) (j : Fin 8) : Bool :=
  bytes[i].toNat.testBit j

/-- The bits that are the same in all lease ids: the high four of byte 6 are 0100, and the high two
of byte 8 are 10. -/
def fixedBit? (i : Fin 16) (j : Fin 8) : Option Bool :=
  if i = 6 ∧ 4 ≤ j then some (decide (j = 6))
  else if i = 8 ∧ 6 ≤ j then some (decide (j = 7))
  else none

example : ((List.finRange 16).flatMap fun i =>
    (List.finRange 8).filter fun j => (fixedBit? i j).isNone).length = 122 := by
  decide +kernel

theorem eq_of_bits {bytes bytes' : Vector UInt8 16} (h : ∀ i j, bit bytes i j = bit bytes' i j) :
    bytes = bytes' := by
  refine Vector.ext fun i hi => UInt8.toNat_inj.mp (Nat.eq_of_testBit_eq fun j => ?_)
  by_cases hj : j < 8
  · exact h ⟨i, hi⟩ ⟨j, hj⟩
  · have high (b : UInt8) : b.toNat.testBit j = false :=
      Nat.testBit_lt_two_pow (Nat.lt_of_lt_of_le b.toNat_lt
        (Nat.pow_le_pow_right (by decide) (Nat.le_of_not_lt hj)))
    rw [high, high]

theorem testBit_masked (b mask value : UInt8) (j : Fin 8) :
    (b &&& mask ||| value).toNat.testBit j =
      (b.toNat.testBit j && mask.toNat.testBit j || value.toNat.testBit j) := by
  rw [UInt8.toNat_or, UInt8.toNat_and, Nat.testBit_or, Nat.testBit_and]

/-- Six bits are fixed, and all others are kept. -/
theorem bit_stamp (e : Vector UInt8 16) (i : Fin 16) (j : Fin 8) :
    bit (stamp e) i j = (fixedBit? i j).getD (bit e i j) := by
  have byte : (stamp e)[i] = if i = 8 then e[8] &&& 0x3f ||| 0x80
      else if i = 6 then e[6] &&& 0x0f ||| 0x40 else e[i] := by
    simp only [stamp, Fin.getElem_fin, Vector.getElem_set, Fin.ext_iff, eq_comm (a := i.val)]
    rfl
  have version : ∀ (j : Fin 8) (b : Bool), (b && (0x0f : UInt8).toNat.testBit j ||
      (0x40 : UInt8).toNat.testBit j) = (fixedBit? 6 j).getD b := by decide
  have variant : ∀ (j : Fin 8) (b : Bool), (b && (0x3f : UInt8).toNat.testBit j ||
      (0x80 : UInt8).toNat.testBit j) = (fixedBit? 8 j).getD b := by decide
  rw [bit, byte]
  split
  next here =>
    subst here
    rw [testBit_masked, variant]
    rfl
  split
  next here =>
    subst here
    rw [testBit_masked, version]
    rfl
  next other other' =>
    have free : fixedBit? i j = none := by simp [fixedBit?, other, other']
    rw [free]
    rfl

theorem ofEntropy_eq_iff {e e' : Vector UInt8 16} : ofEntropy e = ofEntropy e' ↔
    ∀ i j, fixedBit? i j = none → bit e i j = bit e' i j := by
  constructor
  · intro same i j free
    have bits := bit_stamp e i j
    rw [render_injective same, bit_stamp, free] at bits
    exact bits.symm
  · intro same
    refine congrArg render (eq_of_bits fun i j => ?_)
    rw [bit_stamp, bit_stamp]
    cases fixed : fixedBit? i j with
    | none => exact same i j fixed
    | some b => rfl

/-- A GUID is groups of 8, 4, 4, 4 and 12 hexadecimal digits, which is what is read in one of the
usual forms from 36 bytes. A lease id is one in lower case, which is read as the bytes it was made
from but for six bits. So the other bits tell lease ids apart. -/
theorem guid_form_and_bits :
    (∀ s, isGuid s = true ↔ Grouped s.toList) ∧
    (∀ s, isGuid s = true ↔ (bytesOf s).length = 36 ∧ (read? s).isSome = true) ∧
    (∀ e, isGuid (ofEntropy e) = true ∧ (∀ c ∈ (ofEntropy e).toList, c.isUpper = false) ∧
      ∃ bytes : Vector UInt8 16, read? (ofEntropy e) = some bytes.toList ∧
        ∀ i j, bit bytes i j = (fixedBit? i j).getD (bit e i j)) ∧
    ∀ e e', ofEntropy e = ofEntropy e' ↔
      ∀ i j, fixedBit? i j = none → bit e i j = bit e' i j :=
  ⟨fun _ => isGuid_iff, fun _ => isGuid_iff_read?,
    fun e => ⟨isGuid_render _, lower_render _, stamp e, read?_render _, bit_stamp e⟩,
    fun _ _ => ofEntropy_eq_iff⟩

end FileLease.Guid
