import FileLease.Proofs.VariableNumbers
import FileLease.Proofs.WireReplies
import Mathlib.Data.Nat.Digits.Defs

/-!
# Lease times in headers

Which texts of a header tell the seconds until a lease ends. A number of 32 bits is read as it is
written, and all other texts are refused as they are.
-/
namespace FileLease.Text
open Settings.Environment (Digits digits_of_readDecimal? readBelow?_eq_some)

variable {s digits : List Char}

/-- The number that decimal digits name: each counts ten times what it would one place behind. -/
def placeValue (digits : List Char) : Nat :=
  Nat.ofDigits 10 (digits.reverse.map fun c => c.toNat - '0'.toNat)

/-- Digits that are read from the front name the number of their places. -/
theorem ofDigitChars_eq_placeValue (digits : List Char) :
    Nat.ofDigitChars 10 digits 0 = placeValue digits := by
  induction digits using List.reverseRecOn with
  | nil => rfl
  | append_singleton digits c ih =>
    rw [Nat.ofDigitChars_append, ih, Nat.ofDigitChars_cons, Nat.ofDigitChars_nil, placeValue,
      placeValue, List.reverse_append, List.reverse_singleton, List.singleton_append,
      List.map_cons, Nat.ofDigits_cons, Nat.add_comm]

theorem readDecimal?_eq_some {n : Nat} :
    readDecimal? digits = some n ↔ digits ≠ [] ∧ Digits digits ∧ placeValue digits = n := by
  rw [readDecimal?, ofDigitChars_eq_placeValue]
  split
  · rename_i unread
    simp only [Bool.or_eq_true, List.isEmpty_iff, Bool.not_eq_true', List.all_eq_false] at unread
    constructor
    · intro none
      cases none
    · rintro ⟨ne, all, -⟩
      obtain ⟨c, hc, other⟩ := unread.resolve_left ne
      exact absurd (all c hc) other
  · rename_i read
    simp only [Bool.or_eq_true, List.isEmpty_iff, Bool.not_eq_true', not_or,
      Bool.not_eq_false, List.all_eq_true] at read
    rw [Option.some.injEq]
    exact ⟨fun value => ⟨read.1, read.2, value⟩, fun h => h.2.2⟩

/-- A numeral: decimal digits, zeros in front being allowed, with a plus sign or without. -/
def Numeral (s : List Char) (n : Nat) : Prop :=
  ∃ sign digits, s = sign ++ digits ∧ (sign = [] ∨ sign = ['+']) ∧ digits ≠ [] ∧
    Digits digits ∧ placeValue digits = n

theorem readBelow?_eq_some_iff {bound n : Nat} :
    readBelow? bound s = some n ↔ n < bound ∧ Numeral s n := by
  rw [readBelow?_eq_some, and_congr_right_iff]
  intro _
  constructor
  · rintro (read | ⟨digits, rfl, read⟩)
    · exact ⟨[], s, rfl, .inl rfl, readDecimal?_eq_some.mp read⟩
    · exact ⟨['+'], digits, rfl, .inr rfl, readDecimal?_eq_some.mp read⟩
  · rintro ⟨sign, digits, rfl, rfl | rfl, named⟩
    · exact .inl (readDecimal?_eq_some.mpr named)
    · exact .inr ⟨digits, rfl, readDecimal?_eq_some.mpr named⟩

theorem Numeral.ne_nil {n : Nat} (named : Numeral s n) : s ≠ [] := by
  obtain ⟨sign, digits, rfl, -, ne, -⟩ := named
  exact fun none => ne (List.append_eq_nil_iff.mp none).2

theorem Numeral.not_blank {n : Nat} (named : Numeral s n) : ∀ c ∈ s, isBlank c = false := by
  obtain ⟨sign, digits, rfl, signed, -, all, -⟩ := named
  intro c hc
  rcases List.mem_append.mp hc with hc | hc
  · rcases signed with rfl | rfl
    · cases hc
    · rw [List.mem_singleton.mp hc]
      rfl
  · exact isBlank_digit (all c hc)

/-- A numeral is read exactly if its number fits, and never as another number. -/
theorem readUInt32?_eq_some {n : UInt32} : readUInt32? s = some n ↔ Numeral s n.toNat := by
  rw [readUInt32?, Option.map_eq_some_iff]
  constructor
  · rintro ⟨m, read, rfl⟩
    obtain ⟨fits, named⟩ := readBelow?_eq_some_iff.mp read
    rwa [UInt32.toNat_ofNat_of_lt' fits]
  · exact fun named => ⟨n.toNat, readBelow?_eq_some_iff.mpr ⟨n.toNat_lt_size, named⟩,
      UInt32.ofNat_toNat⟩

end FileLease.Text

namespace FileLease.Http
open Text Instant

variable {headers : List Header} {name text : String}

def Readable (value : List UInt8) : Prop :=
  ∀ b ∈ value, 32 ≤ b.toNat ∧ b.toNat < 127 ∨ b.toNat = 9

/-- There is no header of a name, or the first of them has a byte that is not of a text. -/
def Untold (headers : List Header) (name : String) : Prop :=
  ∀ value, value? headers name = some value → ¬ Readable value

/-- Readable bytes are those of a text. -/
theorem Readable.exists_text {value : List UInt8} (h : Readable value) :
    ∃ text : String, Textual text.toList ∧ value = bytesOf text := by
  obtain ⟨textual, same⟩ := exists_textual fun b hb => isTextByte_iff.mpr (h b hb)
  rw [← String.toList_ofList (l := value.map _)] at textual
  exact ⟨_, textual, by rwa [bytesOf_textual textual, String.toList_ofList]⟩

theorem Untold.headerText?_eq (untold : Untold headers name) : headerText? headers name = none := by
  rw [headerText?]
  cases found : headers.find? (·.named name) with
  | none => rfl
  | some header =>
    have value : value? headers name = some header.value := by rw [value?, found]; rfl
    rw [Option.bind_some, Header.text?, if_neg]
    intro texts
    exact untold _ value fun b hb => isTextByte_iff.mp (List.all_eq_true.mp texts b hb)

theorem readable_bytesOf (textual : Textual text.toList) : Readable (bytesOf text) := by
  rw [bytesOf_textual textual]
  intro b hb
  obtain ⟨c, hc, rfl⟩ := List.mem_map.mp hb
  exact isTextByte_iff.mp (isTextByte_byteOf (textual c hc))

/-- What is not untold is told by a text. -/
theorem not_untold_iff : ¬ Untold headers name ↔ ∃ text : String,
    Textual text.toList ∧ value? headers name = some (bytesOf text) := by
  simp only [Untold, not_forall, not_not]
  constructor
  · rintro ⟨value, found, readable⟩
    obtain ⟨text, textual, rfl⟩ := readable.exists_text
    exact ⟨text, textual, found⟩
  · rintro ⟨text, textual, found⟩
    exact ⟨_, found, readable_bytesOf textual⟩

def Seconds (text : List Char) (n : Nat) : Prop :=
  ∃ front numeral back, text = front ++ (numeral ++ back) ∧ Gap front ∧ Gap back ∧
    Numeral numeral n

theorem gap_of_blank {gap : List Char} (textual : Textual gap)
    (blank : ∀ c ∈ gap, isBlank c = true) : Gap gap := by
  have all : ∀ n < 127, 32 ≤ n → isBlank (Char.ofNat n) = true → n = 32 := by decide
  intro c hc
  rcases textual c hc with visible | tab
  · refine .inl (Char.toNat_inj.mp (all c.toNat visible.2 visible.1 ?_))
    rw [Char.ofNat_toNat]
    exact blank c hc
  · exact .inr tab

theorem seconds_iff {s : List Char} (textual : Textual s) {n : UInt32} :
    readUInt32? (strip isBlank s) = some n ↔ Seconds s n.toNat := by
  rw [readUInt32?_eq_some]
  constructor
  · intro named
    obtain ⟨front, back, run, run', whole⟩ := exists_strip isBlank s
    rw [whole, textual_append, textual_append] at textual
    exact ⟨front, _, back, whole, gap_of_blank textual.1 run, gap_of_blank textual.2.2 run', named⟩
  · rintro ⟨front, numeral, back, rfl, gap, gap', named⟩
    rwa [strip_between (fun _ => isBlank_of_mem_gap gap) (fun _ => isBlank_of_mem_gap gap')
      named.not_blank named.ne_nil]

theorem leaseTime_of_number {n : UInt32}
    (told : headerText? headers "x-ms-lease-time" = some text)
    (read : readUInt32? (strip isBlank text.toList) = some n) : leaseTime headers = .ok n := by
  simp only [leaseTime, leaseTimeName, told, read]

theorem leaseTime_of_other (told : headerText? headers "x-ms-lease-time" = some text)
    (unread : readUInt32? (strip isBlank text.toList) = none) :
    leaseTime headers = .error (.invalidHeader "x-ms-lease-time" text) := by
  simp only [leaseTime, leaseTimeName, told, unread]

/-- The time of a break is told by the first header of its name. It is 0 if there is none or if it
is no text. A text tells the number of the numeral between its spaces and tabs, if that fits in 32
bits; all other texts are refused as they are. -/
theorem leaseTime_exact (headers : List Header) :
    (Untold headers "x-ms-lease-time" → leaseTime headers = .ok 0) ∧
    (¬ Untold headers "x-ms-lease-time" → ∃ text : String, Textual text.toList ∧
      value? headers "x-ms-lease-time" = some (bytesOf text) ∧
      (∀ n : UInt32, leaseTime headers = .ok n ↔ Seconds text.toList n.toNat) ∧
      ((∀ n : UInt32, ¬ Seconds text.toList n.toNat) →
        leaseTime headers = .error (.invalidHeader "x-ms-lease-time" text))) := by
  constructor
  · intro untold
    rw [leaseTime, leaseTimeName, untold.headerText?_eq]
  · intro told
    obtain ⟨text, textual, found⟩ := not_untold_iff.mp told
    have told := headerText?_some textual found
    refine ⟨text, textual, found, fun n => ?_, fun other => ?_⟩
    · rw [← seconds_iff textual]
      cases read : readUInt32? (strip isBlank text.toList) with
      | none =>
        rw [leaseTime_of_other told read]
        constructor <;> intro same <;> cases same
      | some seconds => rw [leaseTime_of_number told read, Except.ok.injEq, Option.some.injEq]
    · refine leaseTime_of_other told (Option.eq_none_iff_forall_not_mem.mpr fun n read => ?_)
      exact other n ((seconds_iff textual).mp read)

/-- The first header counts, whatever the case of its name: a numeral with zeros in front between
blanks, the least number that does not fit, and a byte that is of no text. -/
theorem leaseTime_exact_of_padded :
    let padded := [Header.ofText "X-MS-Lease-Time" "\t +0042 ", .ofText "x-ms-lease-time" "7"]
    let large := [Header.ofText "x-ms-lease-time" " 4294967296"]
    let broken : List Header := [⟨"x-ms-lease-time", [0x37, 0xE4]⟩]
    (¬ Untold padded "x-ms-lease-time" ∧ leaseTime padded = .ok 42) ∧
    (¬ Untold large "x-ms-lease-time" ∧
      leaseTime large = .error (.invalidHeader "x-ms-lease-time" " 4294967296")) ∧
    (Untold broken "x-ms-lease-time" ∧ leaseTime broken = .ok 0) := by
  intro padded large broken
  refine ⟨?_, ?_, ?_⟩
  · have textual : Textual "\t +0042 ".toList := by decide
    have found : value? padded "x-ms-lease-time" = some (bytesOf "\t +0042 ") := by
      simp +decide [padded, value?_cons]
    have told := not_untold_iff.mpr ⟨_, textual, found⟩
    obtain ⟨text, -, found', read, -⟩ := (leaseTime_exact padded).2 told
    obtain rfl := bytesOf_injective (Option.some.inj (found.symm.trans found'))
    exact ⟨told, (read 42).mpr ((seconds_iff textual).mp (by decide +kernel))⟩
  · have textual : Textual " 4294967296".toList := by decide
    have found : value? large "x-ms-lease-time" = some (bytesOf " 4294967296") := by
      simp +decide [large, value?_cons]
    have told := not_untold_iff.mpr ⟨_, textual, found⟩
    obtain ⟨text, -, found', -, refused⟩ := (leaseTime_exact large).2 told
    obtain rfl := bytesOf_injective (Option.some.inj (found.symm.trans found'))
    have unread : readUInt32? (strip isBlank " 4294967296".toList) = none := by decide +kernel
    refine ⟨told, refused fun n seconds => ?_⟩
    cases unread.symm.trans ((seconds_iff textual).mpr seconds)
  · have untold : Untold broken "x-ms-lease-time" := by
      rintro value ⟨⟩ readable
      exact absurd (readable 0xE4 (by decide)) (by decide)
    exact ⟨untold, (leaseTime_exact broken).1 untold⟩

end FileLease.Http
