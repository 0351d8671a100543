import FileLease.Proofs.TextBytes
import FileLease.Text.Blank
import FileLease.Text.Numeral

/-!
# Numerals of a fixed width

Numerals with zeros in front are as long as they are said to be, name their number, and stand in the
order of their numbers.
-/
namespace FileLease.Text

theorem le_padded_length (width n : Nat) : width ≤ (padded width n).length := by
  rw [padded, List.length_leftpad]
  exact Nat.le_max_left _ _

theorem padded_length_le {width most n : Nat} (hw : width ≤ most) (pos : 0 < most)
    (hn : n < Nat.pow 10 most) : (padded width n).length ≤ most := by
  have h : (decimal n).length ≤ most :=
    (Nat.length_toDigits_le_iff (by decide) pos).mpr hn
  rw [padded, List.length_leftpad]
  omega

theorem padded_length {width n : Nat} (hw : 0 < width) (hn : n < Nat.pow 10 width) :
    (padded width n).length = width :=
  Nat.le_antisymm (padded_length_le (Nat.le_refl _) hw hn) (le_padded_length width n)

theorem isDigit_of_mem_decimal {n : Nat} {c : Char} (h : c ∈ decimal n) : c.isDigit = true :=
  Nat.isDigit_of_mem_toDigits (by decide) (by decide) h

theorem isDigit_of_mem_padded {width n : Nat} {c : Char} (h : c ∈ padded width n) :
    c.isDigit = true := by
  rcases List.mem_append.mp h with h | h
  · rw [List.eq_of_mem_replicate h]
    rfl
  · exact isDigit_of_mem_decimal h

theorem ne_of_isDigit {c d : Char} (h : c.isDigit = true) (hd : d.isDigit = false) : c ≠ d := by
  rintro rfl
  rw [h] at hd
  cases hd

theorem isDigit_bounds {c : Char} (h : c.isDigit = true) : 48 ≤ c.toNat ∧ c.toNat ≤ 57 := by
  simp only [Char.isDigit, Bool.and_eq_true, decide_eq_true_eq] at h
  exact h

theorem plain_of_isDigit {c : Char} (h : c.isDigit = true) : 32 ≤ c.toNat ∧ c.toNat < 127 := by
  have := isDigit_bounds h
  omega

theorem isBlank_digit {c : Char} (h : c.isDigit = true) : isBlank c = false := by
  have := isDigit_bounds h
  simp only [isBlank, Bool.or_eq_false_iff, Bool.and_eq_false_iff, beq_eq_false_iff_ne,
    decide_eq_false_iff_not]
  omega

theorem plain_decimal (n : Nat) : Plain (decimal n) :=
  fun _ h => plain_of_isDigit (isDigit_of_mem_decimal h)

theorem plain_padded (width n : Nat) : Plain (padded width n) :=
  fun _ h => plain_of_isDigit (isDigit_of_mem_padded h)

theorem decimal_of_lt {n : Nat} (hn : n < 10) : decimal n = [Nat.digitChar n] :=
  Nat.toDigits_of_lt_base hn

theorem decimal_succ {n : Nat} (hn : 10 ≤ n) :
    decimal n = decimal (n / 10) ++ [Nat.digitChar (n % 10)] :=
  Nat.toDigits_of_base_le (by decide) hn

theorem decimal_ne_nil (n : Nat) : decimal n ≠ [] :=
  List.ne_nil_of_length_pos Nat.length_toDigits_pos

/-- A numeral has a first digit, and others behind it. -/
theorem decimal_eq_cons (n : Nat) :
    ∃ c rest, decimal n = c :: rest ∧ c.isDigit = true ∧ ∀ d ∈ rest, d.isDigit = true := by
  cases digits : decimal n with
  | nil => exact absurd digits (decimal_ne_nil n)
  | cons c rest =>
    have all (d : Char) (h : d ∈ c :: rest) : d.isDigit = true :=
      isDigit_of_mem_decimal (n := n) (digits ▸ h)
    exact ⟨c, rest, rfl, all c List.mem_cons_self, fun d h => all d (List.mem_cons_of_mem _ h)⟩

theorem head?_decimal_of_not_digit {n : Nat} {c : Char} (h : c.isDigit = false) :
    (decimal n).head? ≠ some c := fun head =>
  ne_of_isDigit (isDigit_of_mem_decimal (List.mem_of_head? head)) h rfl

/-- No zero stands at the front of a numeral, unless it is that of zero. -/
theorem head?_decimal {n : Nat} (hn : 0 < n) : (decimal n).head? ≠ some '0' := by
  have one : ∀ d < 10, 0 < d → Nat.digitChar d ≠ '0' := by decide
  induction n using Nat.strongRecOn with
  | ind n ih =>
    by_cases small : n < 10
    · rw [decimal_of_lt small]
      exact fun h => one n small hn (Option.some.inj h)
    · have front := ih (n / 10) (by omega) (by omega)
      rw [decimal_succ (by omega)]
      obtain ⟨c, rest, digits, -⟩ := decimal_eq_cons (n / 10)
      rw [digits] at front ⊢
      exact front

theorem ofDigitChars_decimal (n : Nat) : Nat.ofDigitChars 10 (decimal n) 0 = n :=
  Nat.ofDigitChars_ten_toDigits

theorem ofDigitChars_padded (width n : Nat) : Nat.ofDigitChars 10 (padded width n) 0 = n := by
  rw [padded, List.leftpad, Nat.ofDigitChars_append, Nat.ofDigitChars_replicate_zero,
    Nat.mul_zero, ofDigitChars_decimal]

/-- Digits name a number that is less than the first of more digits. -/
theorem ofDigitChars_lt {digits : List Char} (all : ∀ c ∈ digits, c.isDigit = true) (n : Nat) :
    Nat.ofDigitChars 10 digits n < (n + 1) * Nat.pow 10 digits.length := by
  induction digits generalizing n with
  | nil => exact Nat.lt_of_lt_of_eq (Nat.lt_succ_self n) (Nat.mul_one _).symm
  | cons c digits ih =>
    have digit := isDigit_bounds (all c List.mem_cons_self)
    have zero : '0'.toNat = 48 := rfl
    rw [Nat.ofDigitChars_cons]
    calc Nat.ofDigitChars 10 digits (10 * n + (c.toNat - '0'.toNat))
        < (10 * n + (c.toNat - '0'.toNat) + 1) * Nat.pow 10 digits.length :=
          ih (fun d hd => all d (List.mem_cons_of_mem c hd)) _
      _ ≤ ((n + 1) * 10) * Nat.pow 10 digits.length := Nat.mul_le_mul_right _ (by omega)
      _ = (n + 1) * Nat.pow 10 (digits.length + 1) := by
          rw [Nat.mul_assoc, Nat.mul_comm 10]
          rfl

theorem readDecimal?_decimal (n : Nat) : readDecimal? (decimal n) = some n := by
  have hne : (decimal n).isEmpty = false := by
    cases hd : decimal n with
    | nil => exact absurd hd (decimal_ne_nil n)
    | cons c s => rfl
  have digits : (decimal n).all Char.isDigit = true :=
    List.all_eq_true.mpr fun c hc => isDigit_of_mem_decimal hc
  simp [readDecimal?, hne, digits, ofDigitChars_decimal]

theorem readUInt32?_decimal (n : UInt32) : readUInt32? (decimal n.toNat) = some n := by
  have sign : (decimal n.toNat).head? ≠ some '+' := head?_decimal_of_not_digit rfl
  simp only [readUInt32?, readBelow?, if_neg sign, readDecimal?_decimal, Option.filter,
    n.toNat_lt_size, decide_true, if_true, Option.map_some, UInt32.ofNat_toNat]

theorem hexValue?_digitChar : ∀ d < 16, hexValue? (Nat.digitChar d) = some d := by
  decide

/-- The last digit of a numeral stands behind the numeral of the rest. -/
theorem hexUpper_succ {width : Nat} (hw : 0 < width) (n : Nat) :
    hexUpper (width + 1) n = hexUpper width (n / 16) ++ [(Nat.digitChar (n % 16)).toUpper] := by
  by_cases hn : n < 16
  · have hz : n / 16 = 0 := by omega
    have hr : List.replicate width '0' = List.replicate (width - 1) '0' ++ ['0'] := by
      rw [← List.replicate_succ', Nat.sub_add_cancel hw]
    simp [hexUpper, hex, hz, Nat.toDigits_of_lt_base hn, Nat.mod_eq_of_lt hn, List.leftpad, hr]
  · rw [hexUpper, hex, Nat.toDigits_of_base_le (by decide) (by omega)]
    simp [hexUpper, hex, List.leftpad]

theorem byteOf_digit_lt {m n : Nat} (h : m < n) (hn : n < 16) :
    byteOf (Nat.digitChar m).toUpper < byteOf (Nat.digitChar n).toUpper := by
  have all : ∀ n < 16, ∀ m < n,
      byteOf (Nat.digitChar m).toUpper < byteOf (Nat.digitChar n).toUpper := by decide
  exact all n hn m h

theorem append_lt_append {α : Type} [LT α] {a b : List α} (h : a < b)
    (hl : a.length = b.length) (s t : List α) : a ++ s < b ++ t := by
  induction h with
  | nil => cases hl
  | cons _ ih => exact .cons (ih (Nat.succ.inj hl))
  | rel h => exact .rel h

theorem hexUpper_length {width n : Nat} (hw : 0 < width) (hn : n < Nat.pow 16 width) :
    (hexUpper width n).length = width := by
  have h : (hex n).length ≤ width := (Nat.length_toDigits_le_iff (by decide) hw).mpr hn
  rw [hexUpper, List.length_leftpad, List.length_map]
  omega

theorem digit_of_mem_hex {n : Nat} {c : Char} (h : c ∈ hex n) :
    ∃ k, k < 16 ∧ c = Nat.digitChar k := by
  induction n using Nat.strongRecOn with
  | ind n ih =>
    by_cases hn : n < 16
    · rw [hex, Nat.toDigits_of_lt_base hn] at h
      exact ⟨n, hn, List.mem_singleton.mp h⟩
    · rw [hex, Nat.toDigits_of_base_le (by decide) (by omega)] at h
      rcases List.mem_append.mp h with h | h
      · exact ih (n / 16) (by omega) h
      · exact ⟨n % 16, Nat.mod_lt n (by decide), List.mem_singleton.mp h⟩

theorem plain_hexUpper (width n : Nat) : Plain (hexUpper width n) := by
  have all : ∀ k < 16, 32 ≤ (Nat.digitChar k).toUpper.toNat ∧
      (Nat.digitChar k).toUpper.toNat < 127 := by decide
  intro c h
  rcases List.mem_append.mp h with h | h
  · rw [List.eq_of_mem_replicate h]
    decide
  · obtain ⟨d, hd, rfl⟩ := List.mem_map.mp h
    obtain ⟨k, hk, rfl⟩ := digit_of_mem_hex hd
    exact all k hk

/-- Numerals of one width stand in the order of their numbers, byte by byte. -/
theorem hexUpper_lt {width m n : Nat} (hw : 0 < width) (h : m < n) (hn : n < Nat.pow 16 width) :
    (hexUpper width m).map byteOf < (hexUpper width n).map byteOf := by
  induction width generalizing m n with
  | zero => exact absurd hw (by decide)
  | succ width ih =>
    rcases Nat.eq_zero_or_pos width with rfl | hw'
    · have hn' : n < 16 := hn
      have hm : m < 16 := by omega
      simp only [hexUpper, hex, Nat.toDigits_of_lt_base hm, Nat.toDigits_of_lt_base hn']
      exact .rel (byteOf_digit_lt h hn')
    · have hp : Nat.pow 16 (width + 1) = Nat.pow 16 width * 16 := rfl
      have hn' : n / 16 < Nat.pow 16 width := by omega
      simp only [hexUpper_succ hw', List.map_append]
      -- either the numbers differ before the last digit, or in it alone
      rcases Nat.lt_or_ge (m / 16) (n / 16) with hlt | hge
      · refine append_lt_append (ih hw' hlt hn') ?_ _ _
        rw [List.length_map, List.length_map, hexUpper_length hw' hn',
          hexUpper_length hw' (by omega)]
      · have he : m / 16 = n / 16 := by omega
        rw [he]
        exact List.append_left_lt (.rel (byteOf_digit_lt (by omega) (by omega)))

end FileLease.Text
