import FileLease.Json.Printer
import FileLease.Json.Reader
import FileLease.Proofs.FoundPieces

/-!
# JSON texts there and back

Strings, whole numbers of 64 bits and objects of them are read back as they were written, on one
line or on several.
-/
namespace FileLease.Json
open Text

theorem length_le_byteLength (s : List Char) : s.length ≤ byteLength s := by
  have general (n : Nat) : n + s.length ≤ s.foldl (fun n c => n + c.utf8Size) n := by
    induction s generalizing n with
    | nil => exact Nat.le_refl n
    | cons c s ih =>
      have := ih (n + c.utf8Size)
      have := c.utf8Size_pos
      rw [List.foldl_cons, List.length_cons]
      omega
  simpa [byteLength] using general 0

/-- The two digits of a control character. -/
theorem readHex?_control : ∀ n < 0x20,
    readHex? ('0' :: '0' :: hexByte n.toUInt8) = some n := by
  decide +kernel

variable {s tail : List Char} {c : Char}

theorem readUnit_control {n : Nat} (hn : n < 0x20) (tail : List Char) :
    Finds (readUnit ('0' :: '0' :: (hexByte n.toUInt8 ++ tail))) n tail := by
  have size := length_le_byteLength ('0' :: '0' :: (hexByte n.toUInt8 ++ tail))
  have digits := readHex?_control n hn
  simp only [hexByte, List.cons_append, List.nil_append, List.length_cons] at size digits ⊢
  rw [readUnit, if_neg (by omega)]
  simp only [digits]
  exact ⟨_, rfl⟩

/-- A control character is read from its code point. -/
theorem readUnits_control {n : Nat} (hn : n < 0x20) (tail : List Char) :
    Finds (readUnits true ('0' :: '0' :: (hexByte n.toUInt8 ++ tail))) (Char.ofNat n) tail := by
  obtain ⟨h, read⟩ := readUnit_control hn tail
  have trailing : isTrailing n = false := by
    simp only [isTrailing, Bool.and_eq_false_iff, decide_eq_false_iff_not]
    omega
  have leading : isLeading n = false := by
    simp only [isLeading, Bool.and_eq_false_iff, decide_eq_false_iff_not]
    omega
  simp only [readUnits, read, pure, Except.pure, bind, Except.bind, trailing, leading,
    Bool.not_true, Bool.not_false, Bool.false_eq_true, if_false, if_true]
  exact ⟨_, rfl⟩

theorem readEscape_codePoint (s : List Char) :
    readEscape true ('u' :: s) = (readUnits true s).map (·.behind) := by
  simp [readEscape]

/-- A character is written as an escape that is read as the character, or as itself. -/
theorem escaped_cases (c : Char) :
    (∃ text, escaped c = '\\' :: text ∧ ∀ tail, Finds (readEscape true (text ++ tail)) c tail) ∨
      escaped c = [c] ∧ c ≠ '\x22' ∧ c ≠ '\\' ∧ ¬ c.toNat < 0x20 := by
  unfold escaped
  split
  next h => exact .inl ⟨_, rfl, fun tail => ⟨_, by rw [h]; rfl⟩⟩
  split
  next h => exact .inl ⟨_, rfl, fun tail => ⟨_, by rw [h]; rfl⟩⟩
  split
  next h => exact .inl ⟨_, rfl, fun tail => ⟨_, by rw [← Char.ofNat_toNat c, h]; rfl⟩⟩
  split
  next h => exact .inl ⟨_, rfl, fun tail => ⟨_, by rw [h]; rfl⟩⟩
  split
  next h => exact .inl ⟨_, rfl, fun tail => ⟨_, by rw [h]; rfl⟩⟩
  split
  next h => exact .inl ⟨_, rfl, fun tail => ⟨_, by rw [← Char.ofNat_toNat c, h]; rfl⟩⟩
  split
  next h => exact .inl ⟨_, rfl, fun tail => ⟨_, by rw [h]; rfl⟩⟩
  split
  next control =>
    refine .inl ⟨_, rfl, fun tail => ?_⟩
    obtain ⟨h, units⟩ := readUnits_control control tail
    rw [Char.ofNat_toNat] at units
    change Finds (readEscape true ('u' :: '0' :: '0' :: (hexByte c.toNat.toUInt8 ++ tail))) c tail
    rw [readEscape_codePoint, units]
    exact ⟨_, rfl⟩
  next quote slash _ _ _ _ _ control => exact .inr ⟨rfl, quote, slash, control⟩

theorem readCharacters_escaped {s t : List Char} (c : Char)
    (read : Finds (readCharacters true s) t tail) :
    Finds (readCharacters true (escaped c ++ s)) (c :: t) tail := by
  obtain ⟨h, read⟩ := read
  obtain ⟨text, same, reads⟩ | ⟨same, quote, slash, control⟩ := escaped_cases c
  · obtain ⟨h', escape⟩ := reads s
    rw [same, List.cons_append, readCharacters, if_neg (by decide), if_pos rfl, escape]
    simp only [pure, Except.pure, read]
    exact ⟨_, rfl⟩
  · rw [same, List.singleton_append, readCharacters, if_neg quote, if_neg slash,
      if_neg control, read]
    exact ⟨_, rfl⟩

theorem readCharacters_flatMap (s tail : List Char) :
    Finds (readCharacters true (s.flatMap escaped ++ '\x22' :: tail)) s tail := by
  induction s with
  | nil =>
    rw [List.flatMap_nil, List.nil_append, readCharacters, if_pos rfl]
    exact ⟨_, rfl⟩
  | cons c s ih =>
    rw [List.flatMap_cons, List.append_assoc]
    exact readCharacters_escaped c ih

/-- A string is read up to its closing mark. -/
theorem readString_written (s : String) (tail : List Char) :
    Finds (readString (s.toList.flatMap escaped ++ '\x22' :: tail)) s tail := by
  obtain ⟨h, read⟩ := readCharacters_flatMap s.toList tail
  refine ⟨h, ?_⟩
  rw [readString, read]
  simp only [pure, Except.pure, Except.map, Taken.map, String.ofList_toList]

theorem le_ofDigitChars (n : Nat) (digits : List Char) : n ≤ Nat.ofDigitChars 10 digits n := by
  induction digits generalizing n with
  | nil => exact Nat.le_refl n
  | cons c digits ih =>
    have := ih (10 * n + (c.toNat - '0'.toNat))
    rw [Nat.ofDigitChars_cons]
    omega

/-- Digits fit into 64 bits if their number does. -/
theorem absorb_eq (n : Nat) (digits : List Char)
    (hn : Nat.ofDigitChars 10 digits n < UInt64.size) :
    absorb n digits = (Nat.ofDigitChars 10 digits n, []) := by
  induction digits generalizing n with
  | nil => rfl
  | cons c digits ih =>
    rw [Nat.ofDigitChars_cons, Nat.mul_comm] at hn ⊢
    have fits := Nat.lt_of_le_of_lt (le_ofDigitChars _ digits) hn
    rw [absorb]
    simp only [if_pos fits, ih _ hn]

/-- What may follow a numeral. -/
def EndsNumeral (tail : List Char) : Prop :=
  ∀ c ∈ tail.head?, c.isDigit = false ∧ c ≠ '.' ∧ c ≠ 'e' ∧ c ≠ 'E'

theorem EndsNumeral.fraction (ends : EndsNumeral tail) :
    Finds (readFraction tail) none tail := by
  unfold readFraction
  split
  next rest => exact absurd rfl (ends '.' rfl).2.1
  next => exact ⟨_, rfl⟩

theorem EndsNumeral.exponent (ends : EndsNumeral tail) (zero : Bool) :
    Finds (readExponent zero tail) none tail := by
  cases tail with
  | nil => exact ⟨_, rfl⟩
  | cons c rest =>
    obtain ⟨-, -, e, e'⟩ := ends c rfl
    rw [readExponent, if_neg (not_or.mpr ⟨e, e'⟩)]
    exact ⟨_, rfl⟩

/-- A whole number of 64 bits is read back. -/
theorem readNumber_decimal {n : Nat} (hn : n < UInt64.size) (ends : EndsNumeral tail) :
    Finds (readNumber false (decimal n ++ tail)) (.integer n) tail := by
  have value := absorb_eq 0 (decimal n) (by rwa [ofDigitChars_decimal])
  rw [ofDigitChars_decimal] at value
  have stop : tail.head?.all (! Char.isDigit ·) = true := by
    cases tail with
    | nil => rfl
    | cons d rest => simp [(ends d rfl).1]
  obtain ⟨c, rest, digits, first, all⟩ := decimal_eq_cons n
  have single : ¬ (c = '0' ∧ (rest ++ tail).head?.any Char.isDigit = true) := by
    rintro ⟨rfl, more⟩
    have zero : n = 0 := Nat.eq_zero_of_not_pos fun pos => head?_decimal pos (digits ▸ rfl)
    obtain rfl : rest = [] := by
      subst zero
      exact (List.cons.inj digits).2.symm
    cases tail with
    | nil => cases more
    | cons d tail => simp [(ends d rfl).1] at more
  obtain ⟨h', run⟩ := takeRun_eq all stop
  have taken : (takeRun Char.isDigit (rest ++ tail)).value = rest := by rw [run]
  rw [digits] at value ⊢
  rw [List.cons_append, readNumber]
  simp only [first, Bool.not_true, Bool.false_eq_true, if_false, if_neg single]
  refine Finds.bind (by rw [run]; exact ends.fraction) fun h => ?_
  simp only [taken, value, Option.getD_none]
  refine Finds.bind (ends.exponent _) fun h => ?_
  simp only [Option.isNone_none, List.isEmpty_nil, Bool.not_false, true_or, and_self, if_true]
  exact ⟨_, rfl⟩

def Blank (s : List Char) : Prop :=
  s.all isBlank = true

instance (s : List Char) : Decidable (Blank s) :=
  inferInstanceAs (Decidable (s.all isBlank = true))

theorem skipBlanks_append {blanks : List Char} (blank : Blank blanks) (hc : isBlank c = false)
    (tail : List Char) : skipBlanks (blanks ++ c :: tail) = c :: tail := by
  rw [skipBlanks, List.dropWhile_append_of_pos (List.all_eq_true.mp blank),
    List.dropWhile_cons_of_neg (by simp [hc])]

theorem skipBlanks_cons (hc : isBlank c = false) (tail : List Char) :
    skipBlanks (c :: tail) = c :: tail := by
  have none : Blank [] := rfl
  exact skipBlanks_append none hc tail

theorem seekMember_first (front : skipBlanks s = '\x22' :: tail) :
    Finds (seekMember true s) true tail := by
  unfold seekMember
  split
  next heq => cases front.symm.trans heq
  next heq =>
    cases front.symm.trans heq
    exact ⟨_, rfl⟩

theorem seekMember_next {inner : List Char} (front : skipBlanks s = ',' :: inner)
    (name : skipBlanks inner = '\x22' :: tail) : Finds (seekMember false s) true tail := by
  unfold seekMember
  split
  next heq => cases front.symm.trans heq
  next heq =>
    cases front.symm.trans heq
    rw [if_neg (by decide), if_neg (by decide), if_pos rfl]
    dsimp only
    split
    next heq _ => cases name.symm.trans heq
    next heq _ =>
      cases name.symm.trans heq
      exact ⟨_, rfl⟩

theorem seekMember_end (first : Bool) (front : skipBlanks s = '\x7d' :: tail) :
    Finds (seekMember first s) false tail := by
  unfold seekMember
  split
  next heq => cases front.symm.trans heq
  next heq =>
    cases front.symm.trans heq
    exact ⟨_, rfl⟩

theorem readColon_eq (front : skipBlanks s = ':' :: tail) : Finds (readColon s) () tail := by
  unfold readColon
  split
  next heq => cases front.symm.trans heq
  next heq =>
    cases front.symm.trans heq
    exact ⟨_, rfl⟩

/-- The blanks of an object that is written over some lines or on one: those before a name, those
before a value, and those at the end. -/
structure Layout where
  gap : List Char
  space : List Char
  last : List Char

namespace Layout

structure Sound (l : Layout) : Prop where
  gap : Blank l.gap
  space : Blank l.space
  last : Blank l.last

def member (l : Layout) (m : String × List Char) : List Char :=
  l.gap ++ writeString m.1 ++ ':' :: (l.space ++ m.2)

def rest (l : Layout) (ms : List (String × List Char)) (tail : List Char) : List Char :=
  ms.flatMap (fun m => ',' :: l.member m) ++ (l.last ++ '\x7d' :: tail)

def item (l : Layout) (first : Bool) (m : String × List Char) : List Char :=
  (if first then [] else [',']) ++ l.member m

variable {l : Layout} {m : String × List Char} {ms : List (String × List Char)}

theorem rest_cons (l : Layout) (m : String × List Char) (ms : List (String × List Char))
    (tail : List Char) : l.rest (m :: ms) tail = l.item false m ++ l.rest ms tail := by
  simp [rest, item, List.append_assoc]

theorem member_append (l : Layout) (m : String × List Char) (tail : List Char) :
    l.member m ++ tail = l.gap ++ '\x22' :: (m.1.toList.flatMap escaped ++
      '\x22' :: ':' :: (l.space ++ m.2 ++ tail)) := by
  simp [member, writeString, List.append_assoc]

/-- The name of the next member. -/
theorem Sound.seekMember (sound : l.Sound) (first : Bool) (m : String × List Char)
    (tail : List Char) : Finds (Json.seekMember first (l.item first m ++ tail)) true
      (m.1.toList.flatMap escaped ++ '\x22' :: ':' :: (l.space ++ m.2 ++ tail)) := by
  have name := skipBlanks_append sound.gap (by decide : isBlank '\x22' = false)
    (m.1.toList.flatMap escaped ++ '\x22' :: ':' :: (l.space ++ m.2 ++ tail))
  rw [← member_append] at name
  cases first with
  | true => exact seekMember_first name
  | false => exact seekMember_next (skipBlanks_cons (by decide) _) name

theorem Sound.seekMember_end (sound : l.Sound) (tail : List Char) :
    Finds (Json.seekMember false (l.rest [] tail)) false tail :=
  Json.seekMember_end false (skipBlanks_append sound.last (by decide) tail)

/-- What follows a member does not go on with a numeral. -/
theorem Sound.endsNumeral (sound : l.Sound) (ms : List (String × List Char)) (tail : List Char) :
    EndsNumeral (l.rest ms tail) := by
  have blank {c : Char} (h : isBlank c = true) :
      c.isDigit = false ∧ c ≠ '.' ∧ c ≠ 'e' ∧ c ≠ 'E' := by
    obtain ((rfl | rfl) | rfl) | rfl : ((c = ' ' ∨ c = '\n') ∨ c = '\t') ∨ c = '\r' := by
      simpa [isBlank] using h
    · decide
    · decide
    · decide
    · decide
  intro c hc
  cases ms with
  | cons m ms =>
    cases hc
    decide
  | nil =>
    cases last : l.last with
    | nil =>
      rw [rest, last] at hc
      cases hc
      decide
    | cons d blanks =>
      rw [rest, last] at hc
      cases hc
      exact blank (List.all_eq_true.mp sound.last c (last ▸ List.mem_cons_self))

end Layout

variable {l : Layout} {value : (s : List Char) → Except Halt (Taken 1 s Json)}

/-- A member is read, and then the others. -/
theorem readMembers_item (sound : l.Sound) (first : Bool) {m : String × List Char} {a : Json}
    {all : List (String × Json)} {rest : List Char}
    (read : Finds (value (l.space ++ m.2 ++ rest)) a rest)
    (others : Finds (readMembers value false rest) all tail) :
    Finds (readMembers value first (l.item first m ++ rest)) ((m.1, a) :: all) tail := by
  rw [readMembers]
  refine (sound.seekMember first m rest).bind fun h => ?_
  simp only [if_true]
  refine (readString_written m.1 _).bind fun h => ?_
  refine (readColon_eq (skipBlanks_cons (by decide) _)).bind fun h => ?_
  refine read.bind fun h => ?_
  refine others.bind fun h => ?_
  exact ⟨_, rfl⟩

theorem readMembers_end (sound : l.Sound) (tail : List Char) :
    Finds (readMembers value false (l.rest [] tail)) [] tail := by
  rw [readMembers]
  refine (sound.seekMember_end tail).bind fun h => ?_
  exact ⟨_, rfl⟩

/-- A value that is not made of others: null, a text, or a whole number of 64 bits without a
sign. -/
inductive Simple : Json → Prop
  | null : Simple .null
  | string (s : String) : Simple (.string s)
  | integer {n : Nat} (hn : n < UInt64.size) : Simple (.integer n)

theorem readScalar_string (s : List Char) :
    readScalar '\x22' s = (readString s).map fun t => (t.map .string).behind := by
  simp [readScalar]

theorem isBlank_of_isDigit (h : c.isDigit = true) : isBlank c = false := by
  simp [isBlank, ne_of_isDigit h]

theorem readScalar_digit (h : c.isDigit = true) (s : List Char) :
    readScalar c s = (readNumber false (c :: s)).map fun t => t.map .number := by
  simp [readScalar, ne_of_isDigit h, h]

/-- A simple value is read back, blanks being in front of it. -/
theorem readValue_simple (depth : Nat) {blanks : List Char} (blank : Blank blanks) {a : Json}
    (simple : Simple a) (ends : EndsNumeral tail) :
    Finds (readValue depth (blanks ++ write a ++ tail)) a tail := by
  have front {c : Char} (text : List Char) (hc : isBlank c = false)
      (other : c ≠ '[' ∧ c ≠ '\x7b') (same : write a = c :: text)
      (read : Finds (readScalar c (text ++ tail)) a tail) :
      Finds (readValue depth (blanks ++ write a ++ tail)) a tail := by
    have skip := skipBlanks_append blank hc (text ++ tail)
    obtain ⟨h, read⟩ := read
    rw [same, List.append_assoc, List.cons_append, readValue.eq_def]
    dsimp only
    split
    next heq _ => cases skip.symm.trans heq
    next heq _ =>
      cases skip.symm.trans heq
      rw [if_neg other.1, if_neg other.2, read]
      exact ⟨_, rfl⟩
  cases simple with
  | null => exact front _ (by decide) (by decide) rfl ⟨_, rfl⟩
  | string s =>
    refine front (s.toList.flatMap escaped ++ ['\x22']) (by decide) (by decide) rfl ?_
    obtain ⟨h, read⟩ := readString_written s tail
    rw [List.append_assoc, List.singleton_append, readScalar_string, read]
    exact ⟨_, rfl⟩
  | @integer n hn =>
    have read := readNumber_decimal hn ends
    obtain ⟨c, rest, digits, digit, -⟩ := decimal_eq_cons n
    rw [digits] at read
    obtain ⟨h, read⟩ := read
    refine front rest (isBlank_of_isDigit digit)
      ⟨ne_of_isDigit digit rfl, ne_of_isDigit digit rfl⟩ digits ?_
    rw [readScalar_digit digit]
    change Finds ((readNumber false (c :: rest ++ tail)).map _) _ _
    rw [read]
    exact ⟨_, rfl⟩

def texts (members : List (String × Json)) : List (String × List Char) :=
  members.map fun m => (m.1, write m.2)

/-- The members of an object are read up to its end. -/
theorem readMembers_simple (sound : l.Sound) {depth : Nat} {members : List (String × Json)}
    (simple : ∀ m ∈ members, Simple m.2) (tail : List Char) :
    Finds (readMembers (readValue depth) false (l.rest (texts members) tail)) members tail := by
  induction members with
  | nil => exact readMembers_end sound tail
  | cons m members ih =>
    rw [texts, List.map_cons, Layout.rest_cons]
    have value := readValue_simple depth sound.space (simple m List.mem_cons_self)
      (sound.endsNumeral (texts members) tail)
    have others := ih fun other h => simple other (List.mem_cons_of_mem _ h)
    exact readMembers_item sound false value others

def Layout.object (l : Layout) (first : String × List Char) (others : List (String × List Char))
    (tail : List Char) : List Char :=
  '\x7b' :: (l.item true first ++ l.rest others tail)

/-- An object of simple values is read back. -/
theorem readValue_object (sound : l.Sound) {depth : Nat} {m : String × Json}
    {members : List (String × Json)} (simple : ∀ a ∈ m :: members, Simple a.2) (tail : List Char) :
    Finds (readValue (depth + 1) (l.object (m.1, write m.2) (texts members) tail))
      (.object (m :: members)) tail := by
  have first := readValue_simple depth sound.space (simple m List.mem_cons_self)
    (sound.endsNumeral (texts members) tail)
  obtain ⟨h, read⟩ := readMembers_item sound true (m := (m.1, write m.2)) first
    (readMembers_simple sound (fun other h => simple other (List.mem_cons_of_mem _ h)) tail)
  have front := skipBlanks_cons (c := '\x7b') (by decide)
    (l.item true (m.1, write m.2) ++ l.rest (texts members) tail)
  rw [Layout.object, readValue]
  split
  next heq _ => cases front.symm.trans heq
  next heq _ =>
    cases front.symm.trans heq
    rw [if_neg (by decide), if_pos rfl]
    dsimp only
    rw [read]
    exact ⟨_, rfl⟩

/-- What is found at the front of a text with nothing but blanks after it is what the whole text
stands for. -/
theorem readWhole_eq {α : Type} {read : (s : List Char) → Except Halt (Taken 1 s α)} {text : String}
    {a : α} (found : Finds (read text.toList) a tail) (blank : Blank tail) :
    readWhole read text = .ok a := by
  obtain ⟨h, found⟩ := found
  have ends : (skipBlanks tail).isEmpty = true := by
    rw [skipBlanks, ← List.append_nil tail,
      List.dropWhile_append_of_pos (List.all_eq_true.mp blank)]
    rfl
  simp only [readWhole, found, pure, Except.pure, bind, Except.bind, ends, if_true]
  rfl

def Layout.lines : Layout :=
  ⟨newLine 1, [' '], newLine 0⟩

theorem Layout.sound_lines : lines.Sound := by
  constructor <;> decide

theorem writeLines_simple {a : Json} (simple : Simple a) (depth : Nat) :
    writeLines depth a = write a := by
  cases simple <;> rfl

theorem intercalate_cons (sep p : List Char) (ps : List (List Char)) :
    sep.intercalate (p :: ps) = p ++ ps.flatMap (sep ++ ·) := by
  induction ps generalizing p with
  | nil => simp [List.intercalate]
  | cons q ps ih =>
    have step : sep.intercalate (p :: q :: ps) = p ++ (sep ++ sep.intercalate (q :: ps)) := by
      simp [List.intercalate]
    rw [step, ih, List.flatMap_cons, List.append_assoc]

/-- An object of simple values over several lines. -/
theorem pretty_object {m : String × Json} {members : List (String × Json)}
    (simple : ∀ a ∈ m :: members, Simple a.2) :
    pretty (.object (m :: members)) ++ "\n" =
      String.ofList (Layout.lines.object (m.1, write m.2) (texts members) ['\n']) := by
  have pieces (members : List (String × Json)) (simple : ∀ a ∈ members, Simple a.2) :
      writeMemberLines 1 members = members.map fun m =>
        writeString m.1 ++ ':' :: ' ' :: write m.2 := by
    induction members with
    | nil => rfl
    | cons m members ih =>
      rw [writeMemberLines, writeLines_simple (simple m List.mem_cons_self),
        ih fun a h => simple a (List.mem_cons_of_mem _ h), List.map_cons]
  have text : writeLines 0 (.object (m :: members)) =
      Layout.lines.object (m.1, write m.2) (texts members) [] := by
    rw [writeLines, pieces _ simple]
    simp [encloseLines, intercalate_cons, Layout.object, Layout.item, Layout.rest, Layout.member,
      Layout.lines, texts, List.flatMap_map]
  have line : "\n" = String.ofList ['\n'] := rfl
  rw [pretty, text, line, ← String.ofList_append]
  simp [Layout.object, Layout.rest]

/-- An object of simple values over several lines is read back. -/
theorem ofText_pretty {m : String × Json} {members : List (String × Json)}
    (simple : ∀ a ∈ m :: members, Simple a.2) :
    ofText (pretty (.object (m :: members)) ++ "\n") = .ok (.object (m :: members)) := by
  rw [pretty_object simple]
  refine readWhole_eq ?_ (by decide : Blank ['\n'])
  rw [String.toList_ofList]
  exact readValue_object Layout.sound_lines simple ['\n']

def Layout.line : Layout :=
  ⟨[], [], []⟩

theorem Layout.sound_line : line.Sound := by
  constructor <;> decide

/-- The text of an object without blanks. -/
theorem compact_object (m : String × Json) (members : List (String × Json)) :
    compact (.object (m :: members)) =
      String.ofList (Layout.line.object (m.1, write m.2) (texts members) []) := by
  have pieces (members : List (String × Json)) :
      writeMembers members = members.map fun m => writeString m.1 ++ ':' :: write m.2 := by
    induction members with
    | nil => rfl
    | cons m members ih => rw [writeMembers, ih, List.map_cons]
  rw [compact, write, pieces]
  simp [enclose, intercalate_cons, Layout.object, Layout.item, Layout.rest, Layout.member,
    Layout.line, texts, List.flatMap_map]

end FileLease.Json
