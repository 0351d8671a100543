import FileLease.Text.Charset

/-!
# Texts as bytes

A text is sent as the bytes of UTF-8, one for each character of ASCII, and read back as it was.
-/
namespace FileLease.Text

private theorem toList_loop_eq (bs : ByteArray) (i : Nat) (read : List UInt8) :
    ByteArray.toList.loop bs i read = read.reverse ++ bs.data.toList.drop i := by
  fun_induction ByteArray.toList.loop bs i read with
  | case1 i read hi ih =>
    have hi' : i < bs.data.toList.length := hi
    rw [ih, List.drop_eq_getElem_cons hi']
    simp [ByteArray.get!, hi]
  | case2 i read hi =>
    rw [List.drop_eq_nil_of_le (by simpa using hi), List.append_nil]

theorem utf8_toList (s : String) :
    s.toUTF8.toList = s.toList.flatMap String.utf8EncodeChar := by
  rw [String.toUTF8_eq_toByteArray, ← String.utf8Encode_toList, List.utf8Encode]
  simp [ByteArray.toList, toList_loop_eq]

def byteOf (c : Char) : UInt8 :=
  c.toNat.toUInt8

theorem toNat_byteOf {c : Char} (h : c.toNat < 128) : (byteOf c).toNat = c.toNat := by
  simp only [byteOf, Nat.toUInt8, UInt8.toNat_ofNat']
  omega

theorem encodeChar_of_ascii {c : Char} (h : c.toNat < 128) :
    String.utf8EncodeChar c = [byteOf c] := by
  have hc : c.val.toNat ≤ 127 := Nat.le_of_lt_succ h
  rw [String.utf8EncodeChar, if_pos hc]
  rfl

theorem encode_of_ascii {s : List Char} (h : ∀ c ∈ s, c.toNat < 128) :
    s.flatMap String.utf8EncodeChar = s.map byteOf := by
  induction s with
  | nil => rfl
  | cons c s ih =>
    rw [List.flatMap_cons, encodeChar_of_ascii (h c List.mem_cons_self),
      ih fun d hd => h d (List.mem_cons_of_mem c hd)]
    rfl

def bytesOf (s : String) : List UInt8 :=
  s.toUTF8.toList

theorem bytesOf_eq (s : String) : bytesOf s = s.toList.flatMap String.utf8EncodeChar :=
  utf8_toList s

/-- The visible characters of ASCII and the space. -/
def Plain (s : List Char) : Prop :=
  ∀ c ∈ s, 32 ≤ c.toNat ∧ c.toNat < 127

instance (s : List Char) : Decidable (Plain s) :=
  List.decidableBAll (fun c : Char => 32 ≤ c.toNat ∧ c.toNat < 127) s

@[simp] theorem plain_nil : Plain [] := by
  intro c hc
  cases hc

@[simp] theorem plain_cons {c : Char} {s : List Char} :
    Plain (c :: s) ↔ (32 ≤ c.toNat ∧ c.toNat < 127) ∧ Plain s := by
  simp [Plain]

@[simp] theorem plain_append {s t : List Char} : Plain (s ++ t) ↔ Plain s ∧ Plain t :=
  List.forall_mem_append

/-- The visible characters of ASCII, the space and the tab, of which headers are made. -/
def Textual (s : List Char) : Prop :=
  ∀ c ∈ s, 32 ≤ c.toNat ∧ c.toNat < 127 ∨ c = '\t'

instance (s : List Char) : Decidable (Textual s) :=
  List.decidableBAll (fun c : Char => 32 ≤ c.toNat ∧ c.toNat < 127 ∨ c = '\t') s

@[simp] theorem textual_cons {c : Char} {s : List Char} :
    Textual (c :: s) ↔ (32 ≤ c.toNat ∧ c.toNat < 127 ∨ c = '\t') ∧ Textual s := by
  simp [Textual]

@[simp] theorem textual_append {s t : List Char} : Textual (s ++ t) ↔ Textual s ∧ Textual t :=
  List.forall_mem_append

theorem Plain.textual {s : List Char} (h : Plain s) : Textual s :=
  fun c hc => .inl (h c hc)

theorem Textual.lt {s : List Char} (h : Textual s) {c : Char} (hc : c ∈ s) : c.toNat < 128 := by
  rcases h c hc with visible | rfl
  · omega
  · decide

theorem bytesOf_textual {s : String} (h : Textual s.toList) : bytesOf s = s.toList.map byteOf := by
  rw [bytesOf_eq, encode_of_ascii fun c hc => h.lt hc]

theorem bytesOf_plain {s : String} (h : Plain s.toList) : bytesOf s = s.toList.map byteOf :=
  bytesOf_textual h.textual

theorem startCharacter_two {b : UInt8} (hl : 0xC2 ≤ b.toNat) (hh : b.toNat ≤ 0xDF) :
    startCharacter b = ([], some ⟨b.toNat - 0xC0, 1, 0x80, 0xBF⟩) := by
  have h : ¬ b.toNat < 0x80 := by omega
  simp only [startCharacter, h, if_false, hl, hh, and_self, if_true]

theorem startCharacter_three {b : UInt8} (hl : 0xE0 ≤ b.toNat) (hh : b.toNat ≤ 0xEF) :
    startCharacter b = ([], some ⟨b.toNat - 0xE0, 2, if b.toNat = 0xE0 then 0xA0 else 0x80,
      if b.toNat = 0xED then 0x9F else 0xBF⟩) := by
  have h : ¬ b.toNat < 0x80 := by omega
  have h' : ¬ b.toNat ≤ 0xDF := by omega
  simp only [startCharacter, h, h', and_false, if_false, hl, hh, and_self, if_true]

theorem startCharacter_four {b : UInt8} (hl : 0xF0 ≤ b.toNat) (hh : b.toNat ≤ 0xF4) :
    startCharacter b = ([], some ⟨b.toNat - 0xF0, 3, if b.toNat = 0xF0 then 0x90 else 0x80,
      if b.toNat = 0xF4 then 0x8F else 0xBF⟩) := by
  have h : ¬ b.toNat < 0x80 := by omega
  have h' : ¬ b.toNat ≤ 0xDF := by omega
  have h'' : ¬ b.toNat ≤ 0xEF := by omega
  simp only [startCharacter, h, h', h'', and_false, if_false, hl, hh, and_self, if_true]

theorem decodeUtf8_one {b : UInt8} (h : b.toNat < 0x80) (rest : List UInt8) :
    decodeUtf8 none (b :: rest) = Char.ofNat b.toNat :: decodeUtf8 none rest := by
  simp only [decodeUtf8, startCharacter, h, if_true, List.singleton_append]

theorem decodeUtf8_start {b : UInt8} {p : Pending} (h : startCharacter b = ([], some p))
    (rest : List UInt8) : decodeUtf8 none (b :: rest) = decodeUtf8 (some p) rest := by
  simp only [decodeUtf8, h, List.nil_append]

theorem decodeUtf8_more {b : UInt8} {p : Pending} (hl : p.low ≤ b.toNat) (hh : b.toNat ≤ p.high)
    (hn : p.needed ≠ 1) (rest : List UInt8) : decodeUtf8 (some p) (b :: rest) =
      decodeUtf8 (some ⟨p.value * 64 + b.toNat % 64, p.needed - 1, 0x80, 0xBF⟩) rest := by
  simp only [decodeUtf8, hl, hh, and_self, if_true, hn, if_false]

theorem decodeUtf8_last {b : UInt8} {p : Pending} (hl : p.low ≤ b.toNat) (hh : b.toNat ≤ p.high)
    (hn : p.needed = 1) (rest : List UInt8) : decodeUtf8 (some p) (b :: rest) =
      Char.ofNat (p.value * 64 + b.toNat % 64) :: decodeUtf8 none rest := by
  simp only [decodeUtf8, hl, hh, and_self, if_true, hn]

private theorem toNat_ofNat {n : Nat} (h : n < 256) : (UInt8.ofNat n).toNat = n := by
  rw [UInt8.toNat_ofNat', Nat.mod_eq_of_lt h]

/-- Characters beyond ASCII have only bytes beyond it. -/
theorem le_of_mem_encodeChar {c : Char} (h : 128 ≤ c.toNat) {b : UInt8}
    (hb : b ∈ String.utf8EncodeChar c) : 128 ≤ b.toNat := by
  have wide : 128 ≤ c.val.toNat := h
  rw [String.utf8EncodeChar] at hb
  generalize c.val.toNat = v at wide hb
  have beyond (n : Nat) (low : 128 ≤ n) (high : n < 256) : 128 ≤ (UInt8.ofNat n).toNat := by
    rwa [toNat_ofNat high]
  split at hb
  · omega
  split at hb
  · simp only [List.mem_cons, List.not_mem_nil, or_false] at hb
    rcases hb with rfl | rfl <;> exact beyond _ (by omega) (by omega)
  split at hb
  · simp only [List.mem_cons, List.not_mem_nil, or_false] at hb
    rcases hb with rfl | rfl | rfl <;> exact beyond _ (by omega) (by omega)
  · simp only [List.mem_cons, List.not_mem_nil, or_false] at hb
    rcases hb with rfl | rfl | rfl | rfl <;> exact beyond _ (by omega) (by omega)

/-- What is read from the bytes of a character is that character; there is one case for each number
of bytes. -/
theorem decodeUtf8_encodeChar (c : Char) (rest : List UInt8) :
    decodeUtf8 none (String.utf8EncodeChar c ++ rest) = c :: decodeUtf8 none rest := by
  have valid : c.val.toNat < 0xD800 ∨ 0xDFFF < c.val.toNat ∧ c.val.toNat < 0x110000 := c.valid
  have self : Char.ofNat c.val.toNat = c := Char.ofNat_toNat c
  rw [String.utf8EncodeChar]
  generalize c.val.toNat = v at valid self
  split
  · have hb : (UInt8.ofNat v).toNat = v := toNat_ofNat (by omega)
    rw [List.singleton_append, decodeUtf8_one (by omega), hb, self]
  split
  · have hb : (UInt8.ofNat (v / 64 % 32 + 192)).toNat = _ := toNat_ofNat (by omega)
    have hb' : (UInt8.ofNat (v % 64 + 128)).toNat = _ := toNat_ofNat (by omega)
    simp only [List.cons_append, List.nil_append]
    rw [decodeUtf8_start (startCharacter_two (by omega) (by omega)),
      decodeUtf8_last (by simp only; omega) (by simp only; omega) rfl, hb, hb', ← self]
    congr 2
    dsimp only
    omega
  split
  · have hb : (UInt8.ofNat (v / 4096 % 16 + 224)).toNat = _ := toNat_ofNat (by omega)
    have hb' : (UInt8.ofNat (v / 64 % 64 + 128)).toNat = _ := toNat_ofNat (by omega)
    have hb'' : (UInt8.ofNat (v % 64 + 128)).toNat = _ := toNat_ofNat (by omega)
    simp only [List.cons_append, List.nil_append]
    rw [decodeUtf8_start (startCharacter_three (by omega) (by omega)),
      decodeUtf8_more (by simp only; split <;> omega) (by simp only; split <;> omega) (by simp),
      decodeUtf8_last (by simp only; omega) (by simp only; omega) rfl, hb, hb', hb'', ← self]
    congr 2
    dsimp only
    omega
  · have hb : (UInt8.ofNat (v / 262144 % 8 + 240)).toNat = _ := toNat_ofNat (by omega)
    have hb' : (UInt8.ofNat (v / 4096 % 64 + 128)).toNat = _ := toNat_ofNat (by omega)
    have hb'' : (UInt8.ofNat (v / 64 % 64 + 128)).toNat = _ := toNat_ofNat (by omega)
    have hb₃ : (UInt8.ofNat (v % 64 + 128)).toNat = _ := toNat_ofNat (by omega)
    simp only [List.cons_append, List.nil_append]
    rw [decodeUtf8_start (startCharacter_four (by omega) (by omega)),
      decodeUtf8_more (by simp only; split <;> omega) (by simp only; split <;> omega) (by simp),
      decodeUtf8_more (by simp only; omega) (by simp only; omega) (by simp),
      decodeUtf8_last (by simp only; omega) (by simp only; omega) rfl,
      hb, hb', hb'', hb₃, ← self]
    congr 2
    dsimp only
    omega

theorem decodeUtf8_append (s : List Char) (rest : List UInt8) :
    decodeUtf8 none (s.flatMap String.utf8EncodeChar ++ rest) = s ++ decodeUtf8 none rest := by
  induction s with
  | nil => rfl
  | cons c s ih =>
    rw [List.flatMap_cons, List.append_assoc, decodeUtf8_encodeChar, ih, List.cons_append]

theorem decodeUtf8_encode (s : List Char) :
    decodeUtf8 none (s.flatMap String.utf8EncodeChar) = s := by
  have read := decodeUtf8_append s []
  rwa [List.append_nil, decodeUtf8, List.append_nil] at read

theorem encode_injective {s t : List Char}
    (h : s.flatMap String.utf8EncodeChar = t.flatMap String.utf8EncodeChar) : s = t := by
  rw [← decodeUtf8_encode s, h, decodeUtf8_encode]

theorem bytesOf_injective {s t : String} (h : bytesOf s = bytesOf t) : s = t := by
  rw [bytesOf_eq, bytesOf_eq] at h
  exact String.toList_injective (encode_injective h)

end FileLease.Text
