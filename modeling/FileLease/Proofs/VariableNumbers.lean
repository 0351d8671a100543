import Mathlib.Data.List.Basic
import Mathlib.Data.List.TakeWhile
import FileLease.Proofs.FoundPieces
import FileLease.Settings.Environment

/-!
# Numbers in variables

The words in variables that are numbers, and that all others stand for themselves.
-/
namespace FileLease.Settings.Environment
open Text

def Sign (s : List Char) : Prop :=
  s = [] ∨ s = ['+'] ∨ s = ['-']

def Digits (s : List Char) : Prop :=
  ∀ c ∈ s, c.isDigit = true

/-- A whole number that fits in 64 bits. -/
inductive Whole : List Char → Prop
  | plain {digits : List Char} {n : Nat} (read : readDecimal? digits = some n)
      (fits : n < UInt64.size) : Whole digits
  | plus {digits : List Char} {n : Nat} (read : readDecimal? digits = some n)
      (fits : n < UInt64.size) : Whole ('+' :: digits)
  | minus {digits : List Char} {n : Nat} (read : readDecimal? digits = some n)
      (fits : n ≤ UInt64.size / 2) : Whole ('-' :: digits)

inductive Exponent : List Char → Prop
  | none : Exponent []
  | power {mark : Char} {sign digits : List Char} (marked : mark = 'e' ∨ mark = 'E')
      (signed : Sign sign) (some : digits ≠ []) (all : Digits digits) :
      Exponent (mark :: (sign ++ digits))

/-- A number with a point, with digits at one side of it at least. -/
inductive Decimal : List Char → Prop
  | mk {sign whole part exponent : List Char} (signed : Sign sign) (digits : Digits whole)
      (digits' : Digits part) (some : whole ≠ [] ∨ part ≠ []) (scale : Exponent exponent) :
      Decimal (sign ++ (whole ++ '.' :: (part ++ exponent)))

variable {s digits whole part exponent sign : List Char} {c : Char}

def unsigned (s : List Char) : List Char :=
  if s.head? = some '+' ∨ s.head? = some '-' then s.tail else s

theorem exists_sign (s : List Char) : ∃ sign, Sign sign ∧ s = sign ++ unsigned s := by
  unfold unsigned
  split
  · rename_i head
    rcases head with head | head
    · exact ⟨['+'], .inr (.inl rfl), List.eq_cons_of_mem_head? head⟩
    · exact ⟨['-'], .inr (.inr rfl), List.eq_cons_of_mem_head? head⟩
  · exact ⟨[], .inl rfl, rfl⟩

theorem unsigned_sign (signed : Sign sign) (plain : ∀ c ∈ s.head?, c ≠ '+' ∧ c ≠ '-') :
    unsigned (sign ++ s) = s := by
  obtain rfl | rfl | rfl := signed
  · rw [List.nil_append, unsigned, if_neg]
    rintro (head | head)
    · exact (plain _ head).1 rfl
    · exact (plain _ head).2 rfl
  · rfl
  · rfl

theorem Digits.plain (digits : Digits s) : ∀ c ∈ s.head?, c ≠ '+' ∧ c ≠ '-' := by
  intro c hc
  have digit := digits c (List.mem_of_mem_head? hc)
  constructor <;> rintro rfl <;> cases digit

def isMark (c : Char) : Bool :=
  c = 'e' || c = 'E'

theorem isFloat_eq (s : List Char) : isFloat s =
    (let mantissa := (unsigned s).takeWhile (! isMark ·)
     let power := unsigned (((unsigned s).drop mantissa.length).drop 1)
     mantissa.contains '.' && 2 ≤ mantissa.length && (mantissa.erase '.').all Char.isDigit &&
       (mantissa.length = (unsigned s).length || (!power.isEmpty && power.all Char.isDigit))) :=
  rfl

theorem not_isMark_of_digit (digit : c.isDigit = true) : isMark c = false := by
  refine Bool.eq_false_iff.mpr fun marked => ?_
  simp only [isMark, Bool.or_eq_true, decide_eq_true_eq] at marked
  obtain rfl | rfl := marked <;> cases digit

/-- What is in front of the exponent. -/
theorem takeWhile_mantissa (digits : Digits whole) (digits' : Digits part)
    (scale : Exponent exponent) :
    (whole ++ '.' :: (part ++ exponent)).takeWhile (! isMark ·) = whole ++ '.' :: part := by
  have run : ∀ c ∈ whole ++ '.' :: part, (! isMark c) = true := by
    simp only [List.mem_append, List.mem_cons]
    rintro c (hc | rfl | hc)
    · rw [not_isMark_of_digit (digits c hc)]; rfl
    · rfl
    · rw [not_isMark_of_digit (digits' c hc)]; rfl
  have stop : exponent.head?.all (fun c => ! ! isMark c) = true := by
    cases scale with
    | none => rfl
    | power marked => obtain rfl | rfl := marked <;> rfl
  have taken := takeWhile_run run stop
  rwa [List.append_assoc, List.cons_append] at taken

theorem isFloat_of_decimal (decimal : Decimal s) : isFloat s = true := by
  obtain @⟨sign, whole, part, exponent, signed, digits, digits', some, scale⟩ := decimal
  have mantissa := takeWhile_mantissa digits digits' scale
  have plain : ∀ c ∈ (whole ++ '.' :: (part ++ exponent)).head?, c ≠ '+' ∧ c ≠ '-' := by
    cases whole with
    | nil =>
      rintro c ⟨⟩
      decide
    | cons d whole => exact fun c hc => digits.plain c hc
  have point : '.' ∉ whole := fun hc => absurd (digits _ hc) (by decide)
  have erased : (whole ++ '.' :: part).erase '.' = whole ++ part := by
    rw [List.erase_append_right _ point, List.erase_cons_head]
  have left : (whole ++ '.' :: (part ++ exponent)).drop (whole ++ '.' :: part).length =
      exponent := by
    rw [← List.cons_append, ← List.append_assoc]
    exact List.drop_left
  rw [isFloat_eq, unsigned_sign signed plain]
  simp only [mantissa, erased, left, Bool.and_eq_true, Bool.or_eq_true, decide_eq_true_eq,
    List.all_eq_true, List.contains_iff_mem, Bool.not_eq_true', List.isEmpty_eq_false_iff]
  refine ⟨⟨⟨by simp, ?_⟩, ?_⟩, ?_⟩
  · rw [List.length_append, List.length_cons]
    have := some.imp List.length_pos_iff.mpr List.length_pos_iff.mpr
    omega
  · exact fun c hc => (List.mem_append.mp hc).elim (digits c) (digits' c)
  · cases scale with
    | none => exact .inl (by simp)
    | @power mark sign power marked signed some all =>
      refine .inr ?_
      rw [List.drop_succ_cons, List.drop_zero, unsigned_sign signed all.plain]
      exact ⟨some, all⟩

theorem decimal_of_isFloat (float : isFloat s = true) : Decimal s := by
  rw [isFloat_eq] at float
  simp only [Bool.and_eq_true, Bool.or_eq_true, decide_eq_true_eq, List.all_eq_true,
    List.contains_iff_mem, Bool.not_eq_true', List.isEmpty_eq_false_iff] at float
  obtain ⟨⟨⟨point, long⟩, digits⟩, power⟩ := float
  obtain ⟨sign, signed, split⟩ := exists_sign s
  obtain ⟨whole, part, away, mantissa, erased⟩ := List.exists_erase_eq point
  obtain ⟨rest, behind, stop⟩ : ∃ rest, unsigned s = (whole ++ '.' :: part) ++ rest ∧
      ∀ c ∈ rest.head?, isMark c = true := by
    refine ⟨(unsigned s).dropWhile (! isMark ·), ?_, fun c hc => ?_⟩
    · rw [← mantissa, List.takeWhile_append_dropWhile]
    · simpa using head?_dropWhile hc
  rw [mantissa, List.length_append, List.length_cons] at long
  rw [erased] at digits
  rw [mantissa, behind, List.drop_left] at power
  have scale : Exponent rest := by
    cases rest with
    | nil => exact .none
    | cons mark rest =>
      obtain same | ⟨some, all⟩ := power
      · simp only [List.length_append, List.length_cons] at same
        omega
      · obtain ⟨sign, signed, split⟩ := exists_sign rest
        have marked := stop mark rfl
        simp only [isMark, Bool.or_eq_true, decide_eq_true_eq] at marked
        rw [split]
        exact .power marked signed some all
  have some : whole ≠ [] ∨ part ≠ [] := by
    rw [← not_and_or]
    rintro ⟨rfl, rfl⟩
    exact absurd long (by decide)
  rw [split, behind, List.append_assoc, List.cons_append]
  exact .mk signed (fun c hc => digits c (List.mem_append_left _ hc))
    (fun c hc => digits c (List.mem_append_right _ hc)) some scale

theorem isFloat_iff : isFloat s = true ↔ Decimal s :=
  ⟨decimal_of_isFloat, isFloat_of_decimal⟩

theorem digits_of_readDecimal? {n : Nat} (read : readDecimal? s = some n) : Digits s := by
  unfold readDecimal? at read
  split at read
  · cases read
  · rename_i digits
    rw [Bool.or_eq_true, not_or] at digits
    simpa [Digits] using digits.2

theorem readBelow?_eq_some {bound n : Nat} : readBelow? bound s = some n ↔ n < bound ∧
    (readDecimal? s = some n ∨ ∃ digits, s = '+' :: digits ∧ readDecimal? digits = some n) := by
  rw [readBelow?, Option.filter_eq_some_iff, decide_eq_true_eq, and_comm, and_congr_right_iff]
  intro _
  split
  · rename_i head
    have whole := List.eq_cons_of_mem_head? head
    constructor
    · exact fun read => .inr ⟨s.tail, whole, read⟩
    · rintro (read | ⟨digits, rfl, read⟩)
      · exact absurd rfl ((digits_of_readDecimal? read).plain _ head).1
      · exact read
  · rename_i head
    constructor
    · exact .inl
    · rintro (read | ⟨digits, rfl, -⟩)
      · exact read
      · exact absurd rfl head

/-- Numbers are no texts. -/
theorem wordEntry_of_number (number : Whole s ∨ Decimal s) (t : String) :
    wordEntry s ≠ .text t := by
  unfold wordEntry
  split
  · nofun
  · rename_i float
    obtain whole := number.resolve_right (mt isFloat_iff.mpr float)
    split
    · nofun
    · rename_i none
      have above (n : Nat) : readBelow? UInt64.size s ≠ some n := none ▸ nofun
      cases whole with
      | plain read fits => exact absurd (readBelow?_eq_some.mpr ⟨fits, .inl read⟩) (above _)
      | plus read fits =>
        exact absurd (readBelow?_eq_some.mpr ⟨fits, .inr ⟨_, rfl, read⟩⟩) (above _)
      | minus read fits =>
        simp only [read, Option.filter_some, decide_eq_true fits, if_true]
        nofun

/-- A word that is no number stands for itself. -/
theorem wordEntry_text (whole : ¬ Whole s) (decimal : ¬ Decimal s) :
    wordEntry s = .text (String.ofList s) := by
  have none : readBelow? UInt64.size s = none := by
    refine Option.eq_none_iff_forall_not_mem.mpr fun n read => ?_
    obtain ⟨fits, plain | ⟨digits, rfl, plus⟩⟩ := readBelow?_eq_some.mp read
    · exact whole (.plain plain fits)
    · exact whole (.plus plus fits)
  unfold wordEntry
  rw [if_neg (mt isFloat_iff.mp decimal), none]
  dsimp only
  split
  · rename_i digits
    split
    · rename_i n read
      obtain ⟨read, fits⟩ := Option.filter_eq_some_iff.mp read
      exact absurd (.minus read (of_decide_eq_true fits)) whole
    · rfl
  · rfl

end FileLease.Settings.Environment
