import Mathlib.Data.List.Basic
import Mathlib.Data.List.TakeWhile
import FileLease.Proofs.VariableTexts

/-!
# Lists and tables in variables

A grammar of what stands in brackets. The reader accepts what the grammar allows, and nothing else.
-/
namespace FileLease.Settings.Environment
open Text

def Blanks (s : List Char) : Prop :=
  ∀ c ∈ s, isBlank c = true

inductive Name : List Char → Prop
  | plain {c : Char} {s : List Char} (chars : ∀ d ∈ c :: s, isKeyChar d = true) : Name (c :: s)
  | quoted {s : List Char} (quoted : Quoted s) : Name ('\x22' :: (s ++ ['\x22']))

/-- What stands in front of a value: in a list nothing, in a table its name. -/
def Named : Bracket → List Char → Prop
  | .list, s => s = []
  | .table, s => ∃ before key after, Blanks before ∧ Name key ∧ Blanks after ∧
      s = before ++ (key ++ (after ++ ['=']))

inductive Closed : List Char → Prop
  | truth : Closed ['t', 'r', 'u', 'e']
  | untruth : Closed ['f', 'a', 'l', 's', 'e']
  | quoted {s : List Char} (quoted : Quoted s) : Closed ('\x22' :: (s ++ ['\x22']))
  | character (c : Char) : Closed ['\x27', c, '\x27']

/-- A value that goes up to a separator, such as a number or a text without quotation marks. It may
be empty. -/
structure Word (s : List Char) : Prop where
  free : ∀ c ∈ s, isSeparator c = false
  front : ∀ c ∈ s.head?, isBlank c = false ∧ c ≠ '\x22' ∧ c ≠ '\x27'
  truth : ¬ ['t', 'r', 'u', 'e'] <+: s
  untruth : ¬ ['f', 'a', 'l', 's', 'e'] <+: s

/-- What is spelled: a value, or what stands behind an opening bracket. -/
inductive Part
  | value
  | inside (b : Bracket)

/-- The texts of values, and of what stands behind an opening bracket, the closing one included. -/
inductive Spelled : Part → List Char → Prop
  | word {before s : List Char} (blank : Blanks before) (word : Word s) :
      Spelled .value (before ++ s)
  | closed {before s after : List Char} (blank : Blanks before) (closed : Closed s)
      (blank' : Blanks after) : Spelled .value (before ++ (s ++ after))
  | bracket {b : Bracket} {before s after : List Char} (blank : Blanks before)
      (inside : Spelled (.inside b) s) (blank' : Blanks after) :
      Spelled .value (before ++ b.opening :: (s ++ after))
  | close {b : Bracket} : Spelled (.inside b) [b.close]
  | last {b : Bracket} {name item : List Char} (named : Named b name)
      (value : Spelled .value item) : Spelled (.inside b) (name ++ (item ++ [b.close]))
  | more {b : Bracket} {name item others : List Char} (named : Named b name)
      (value : Spelled .value item) (rest : Spelled (.inside b) others) :
      Spelled (.inside b) (name ++ (item ++ ',' :: others))

variable {s rest key name item : List Char} {c : Char} {b : Bracket}

theorem isBlank_iff : isBlank c = true ↔ c ∈ [' ', '\t', '\n', '\x0c', '\r'] := by
  simp [isBlank, or_assoc]

theorem isSeparator_iff : isSeparator c = true ↔ c ∈ [',', '\x7b', '\x7d', '[', ']'] := by
  simp [isSeparator, or_assoc]

theorem not_isSeparator_of_isBlank (blank : isBlank c = true) : isSeparator c = false := by
  have apart : ∀ d ∈ [' ', '\t', '\n', '\x0c', '\r'], isSeparator d = false := by
    simp [isSeparator]
  exact apart c (isBlank_iff.mp blank)

theorem not_isKeyChar_of_isBlank (blank : isBlank c = true) : isKeyChar c = false := by
  have apart : ∀ d ∈ [' ', '\t', '\n', '\x0c', '\r'], isKeyChar d = false := by
    simp [isKeyChar]
  exact apart c (isBlank_iff.mp blank)

theorem not_isKeyChar_of_isSeparator (separator : isSeparator c = true) : isKeyChar c = false := by
  have apart : ∀ d ∈ [',', '\x7b', '\x7d', '[', ']'], isKeyChar d = false := by
    simp [isKeyChar]
  exact apart c (isSeparator_iff.mp separator)

theorem bracket_isSeparator (b : Bracket) :
    isSeparator b.opening = true ∧ isSeparator b.close = true := by
  cases b <;> decide

/-- A text in quotation marks is found up to the second mark. -/
theorem Quoted.found (quoted : Quoted s) (rest : List Char) :
    ∃ text, told (readQuoted (s ++ '\x22' :: rest)) = some (text, rest) := by
  obtain ⟨length, reads⟩ := quoted.reads rest
  obtain ⟨inside, reads⟩ := Option.isSome_iff_exists.mp reads
  have taken : (s ++ '\x22' :: rest).take s.length = s := List.take_left
  have left : (s ++ '\x22' :: rest).drop s.length = '\x22' :: rest := List.drop_left
  have behind : (s ++ '\x22' :: rest).drop (s.length + 1) = rest := by
    rw [← List.drop_drop, left]
    rfl
  rw [told_readQuoted, length, taken, left, behind, reads]
  exact ⟨String.ofList inside, rfl⟩

theorem quoted_of_readQuoted {text : String} (h : told (readQuoted s) = some (text, rest)) :
    ∃ inside, Quoted inside ∧ s = inside ++ '\x22' :: rest := by
  rw [told_readQuoted] at h
  obtain ⟨inside, reads, h⟩ := Option.bind_eq_some_iff.mp h
  split at h
  · rename_i mark
    have left : s.drop (quotedLength s + 1) = rest := congrArg Prod.snd (Option.some.inj h)
    refine ⟨s.take (quotedLength s), quoted_of_unescape _ (quotedLength_take s)
      (Option.isSome_of_eq_some reads), ?_⟩
    rw [← left, ← List.tail_drop, ← List.eq_cons_of_mem_head? mark, List.take_append_drop]
  · cases h

theorem Name.found (named : Name key) (stop : ∀ c ∈ rest.head?, isKeyChar c = false) :
    told (readKey (key ++ rest)) = some ((), rest) := by
  cases named with
  | @plain c s chars =>
    obtain ⟨first, chars⟩ := List.forall_mem_cons.mp chars
    have mark : c ≠ '\x22' := by
      rintro rfl
      cases first
    rw [List.cons_append, told_readKey, if_neg mark, if_pos first, dropWhile_front chars stop]
  | quoted quoted =>
    obtain ⟨text, found⟩ := quoted.found rest
    rw [List.cons_append, List.append_assoc, List.singleton_append, told_readKey, if_pos rfl,
      found]
    rfl

theorem name_of_readKey (h : told (readKey s) = some ((), rest)) :
    ∃ key, Name key ∧ s = key ++ rest := by
  cases s with
  | nil => cases h
  | cons c s =>
    rw [told_readKey] at h
    split at h
    · rename_i mark
      obtain ⟨⟨text, left⟩, found, h⟩ := Option.map_eq_some_iff.mp h
      obtain rfl : left = rest := congrArg Prod.snd h
      obtain ⟨inside, quoted, rfl⟩ := quoted_of_readQuoted found
      refine ⟨_, .quoted quoted, ?_⟩
      rw [mark]
      simp
    · split at h
      · rename_i first
        have left : s.dropWhile isKeyChar = rest := congrArg Prod.snd (Option.some.inj h)
        refine ⟨c :: s.takeWhile isKeyChar, .plain ?_, ?_⟩
        · exact List.forall_mem_cons.mpr ⟨first, fun _ hc => List.mem_takeWhile_imp hc⟩
        · rw [← left, List.cons_append, List.takeWhile_append_dropWhile]
      · cases h

/-- A name does not begin with a blank or a separator. -/
theorem Name.head (named : Name key) :
    ∃ c t, key = c :: t ∧ isBlank c = false ∧ isSeparator c = false := by
  cases named with
  | plain chars =>
    have first := (List.forall_mem_cons.mp chars).1
    refine ⟨_, _, rfl, ?_, ?_⟩ <;> refine Bool.eq_false_iff.mpr fun other => ?_
    · cases first.symm.trans (not_isKeyChar_of_isBlank other)
    · cases first.symm.trans (not_isKeyChar_of_isSeparator other)
  | quoted _ => exact ⟨_, _, rfl, by decide⟩

theorem Named.found (named : Named b name) (rest : List Char) :
    afterName b (name ++ rest) = some ((), rest) := by
  cases b with
  | list =>
    cases named
    rfl
  | table =>
    obtain ⟨before, key, after, blank, named, blank', rfl⟩ := named
    obtain ⟨c, t, whole, first, -⟩ := named.head
    have front : ∀ c ∈ (key ++ (after ++ '=' :: rest)).head?, isBlank c = false := by
      subst whole
      rintro c ⟨⟩
      exact first
    have stop : ∀ c ∈ (after ++ '=' :: rest).head?, isKeyChar c = false := by
      cases after with
      | nil =>
        rintro c ⟨⟩
        decide
      | cons d after =>
        rintro c ⟨⟩
        exact not_isKeyChar_of_isBlank (blank' _ List.mem_cons_self)
    have equals : ∀ c ∈ ('=' :: rest).head?, isBlank c = false := by
      rintro c ⟨⟩
      decide
    simp only [List.append_assoc, List.singleton_append]
    rw [afterName, told_readName, dropWhile_front blank front, named.found stop, Option.bind_some,
      dropWhile_front blank' equals]
    rfl

theorem named_of_afterName (h : afterName b s = some ((), rest)) :
    ∃ name, Named b name ∧ s = name ++ rest := by
  cases b with
  | list =>
    cases h
    exact ⟨[], rfl, rfl⟩
  | table =>
    rw [afterName, told_readName] at h
    obtain ⟨⟨⟨⟩, left⟩, found, h⟩ := Option.bind_eq_some_iff.mp h
    obtain ⟨mark, tail⟩ := Option.ite_none_right_eq_some.mp h
    obtain ⟨before, blank, front⟩ := exists_run isBlank s
    obtain ⟨after, blank', behind⟩ := exists_run isBlank left
    obtain ⟨key, named, whole⟩ := name_of_readKey found
    have equals : left.dropWhile isBlank = '=' :: rest := by
      rw [List.eq_cons_of_mem_head? mark]
      exact congrArg ('=' :: ·) (congrArg Prod.snd (Option.some.inj tail))
    refine ⟨_, ⟨before, key, after, blank, named, blank', rfl⟩, ?_⟩
    rw [front, whole, behind, equals]
    simp

theorem Closed.found (closed : Closed s) (rest : List Char) :
    ∃ e, told (readScalar? (s ++ rest)) = some (e, rest) := by
  cases closed with
  | truth => exact ⟨_, rfl⟩
  | untruth => exact ⟨_, rfl⟩
  | character c => exact ⟨_, rfl⟩
  | quoted quoted =>
    obtain ⟨text, found⟩ := quoted.found rest
    refine ⟨.text text, ?_⟩
    rw [List.cons_append, List.append_assoc, List.singleton_append]
    refine (told_behind Entry.text _).trans ?_
    rw [found]
    rfl

/-- No separator is in the way of a text without separators. -/
theorem prefix_of_free {piece : List Char} (free : ∀ d ∈ piece, isSeparator d = false)
    (separator : isSeparator c = true) (h : piece <+: s ++ c :: rest) : piece <+: s := by
  rcases List.prefix_or_prefix_of_prefix h (List.prefix_append s (c :: rest)) with h | ⟨more, h'⟩
  · exact h
  · cases more with
    | nil => exact ⟨[], by rw [← h', List.append_nil, List.append_nil]⟩
    | cons d more =>
      obtain ⟨tail, whole⟩ := h
      rw [← h', List.append_assoc] at whole
      have first : d = c := (List.cons.inj (List.append_cancel_left whole)).1
      have other := free d (by rw [← h']; exact List.mem_append_right s List.mem_cons_self)
      rw [first, separator] at other
      cases other

/-- What does not begin as other values do is a word up to the next separator. -/
theorem told_readScalar?_word (truth : ¬ ['t', 'r', 'u', 'e'] <+: s)
    (untruth : ¬ ['f', 'a', 'l', 's', 'e'] <+: s)
    (first : ∀ c ∈ s.head?, c ≠ '\x22' ∧ c ≠ '\x27') :
    told (readScalar? s) = some (wordEntry (strip Text.isBlank (s.takeWhile (! isSeparator ·))),
      s.dropWhile (! isSeparator ·)) := by
  unfold readScalar?
  split
  · exact absurd ⟨_, rfl⟩ truth
  · exact absurd ⟨_, rfl⟩ untruth
  · exact absurd rfl (first _ rfl).1
  · exact absurd rfl (first _ rfl).2
  · exact absurd rfl (first _ rfl).2
  · rfl

/-- A word is found up to the separator behind it. -/
theorem Word.found (word : Word s) (separator : isSeparator c = true) (rest : List Char) :
    ∃ e, told (readScalar? (s ++ c :: rest)) = some (e, c :: rest) := by
  have run : (s ++ c :: rest).dropWhile (! isSeparator ·) = c :: rest :=
    dropWhile_front (by simpa using word.free) (by simpa using separator)
  have first : ∀ d ∈ (s ++ c :: rest).head?, d ≠ '\x22' ∧ d ≠ '\x27' := by
    cases s with
    | nil =>
      rintro d ⟨⟩
      constructor <;> rintro rfl <;> cases separator
    | cons d s =>
      rintro d ⟨⟩
      exact (word.front _ rfl).2
  have found := told_readScalar?_word
    (fun h => word.truth (prefix_of_free (by simp [isSeparator]) separator h))
    (fun h => word.untruth (prefix_of_free (by simp [isSeparator]) separator h)) first
  rw [run] at found
  exact ⟨_, found⟩

/-- What is in front of the first separator is a word, if it does not begin as other values do. -/
theorem word_takeWhile (front : ∀ c ∈ s.head?, isBlank c = false ∧ c ≠ '\x22' ∧ c ≠ '\x27')
    (truth : ¬ ['t', 'r', 'u', 'e'] <+: s) (untruth : ¬ ['f', 'a', 'l', 's', 'e'] <+: s) :
    Word (s.takeWhile (! isSeparator ·)) where
  free c hc := by simpa using List.mem_takeWhile_imp hc
  front c hc := by
    refine front c ?_
    rw [← List.takeWhile_append_dropWhile (p := (! isSeparator ·)) (l := s), List.head?_append, hc]
    rfl
  truth h := truth (h.trans (List.takeWhile_prefix _))
  untruth h := untruth (h.trans (List.takeWhile_prefix _))

/-- What is read is a value that ends by itself, or a word with all that is in it. -/
theorem scalar_of_readScalar? {e : Entry} (h : told (readScalar? s) = some (e, rest))
    (blank : ∀ c ∈ s.head?, isBlank c = false) : ∃ front, s = front ++ rest ∧
      (Closed front ∨ Word front ∧ ∀ c ∈ rest.head?, isSeparator c = true) := by
  have read (front : List Char) (closed : Closed front) (whole : s = front ++ rest) :
      ∃ front, s = front ++ rest ∧
        (Closed front ∨ Word front ∧ ∀ c ∈ rest.head?, isSeparator c = true) :=
    ⟨front, whole, .inl closed⟩
  unfold readScalar? at h
  split at h
  · cases h
    exact read _ .truth rfl
  · cases h
    exact read _ .untruth rfl
  · rename_i tail
    have h := (told_behind Entry.text _).symm.trans h
    obtain ⟨⟨text, left⟩, found, same⟩ := Option.map_eq_some_iff.mp h
    obtain rfl : left = rest := congrArg Prod.snd same
    obtain ⟨inside, quoted, rfl⟩ := quoted_of_readQuoted found
    exact read _ (.quoted quoted) (by simp)
  · cases h
    exact read _ (.character _) rfl
  · cases h
  · rename_i truth untruth quote character apostrophe
    have left : s.dropWhile (! isSeparator ·) = rest :=
      congrArg Prod.snd (Option.some.inj h)
    have word : Word (s.takeWhile (! isSeparator ·)) := by
      refine word_takeWhile (fun c hc => ⟨blank c hc, ?_, ?_⟩) ?_ ?_
      · rintro rfl
        exact quote _ (List.eq_cons_of_mem_head? hc)
      · rintro rfl
        exact apostrophe _ (List.eq_cons_of_mem_head? hc)
      · rintro ⟨tail, same⟩
        exact truth tail same.symm
      · rintro ⟨tail, same⟩
        exact untruth tail same.symm
    refine ⟨s.takeWhile (! isSeparator ·), ?_, .inr ⟨word, fun c hc => ?_⟩⟩
    · rw [← left, List.takeWhile_append_dropWhile]
    · rw [← left] at hc
      simpa using head?_dropWhile hc

def Ends (c : Char) : Prop :=
  c = ',' ∨ ∃ b : Bracket, c = b.close

theorem Ends.separates (ends : Ends c) :
    isSeparator c = true ∧ isBlank c = false ∧ ∀ b : Bracket, c ≠ b.opening := by
  obtain rfl | ⟨b, rfl⟩ := ends
  · exact ⟨rfl, rfl, fun b => by cases b <;> decide⟩
  · cases b <;> exact ⟨rfl, rfl, fun b => by cases b <;> decide⟩

/-- What the reader makes of a text, whatever stands behind it. -/
def Part.Finds : Part → List Char → Prop
  | .value, s => ∀ c rest, Ends c → ∃ e, told (readEntry (s ++ c :: rest)) = some (e, c :: rest)
  | .inside b, s => ∀ rest, told (readEntries b (s ++ rest)) = some ((), rest)

variable {before after : List Char}

/-- Any value but a list or a table, behind blanks and in front of others. -/
theorem told_readEntry_padded {e : Entry} (blank : Blanks before)
    (front : ∀ d ∈ s.head?, isBlank d = false ∧ ∀ b : Bracket, d ≠ b.opening)
    (found : told (readScalar? s) = some (e, after ++ c :: rest)) (blank' : Blanks after)
    (visible : isBlank c = false) : told (readEntry (before ++ s)) = some (e, c :: rest) := by
  have start : (before ++ s).dropWhile isBlank = s :=
    dropWhile_front blank fun d hd => (front d hd).1
  have other (b : Bracket) : ((before ++ s).dropWhile isBlank).head? ≠ some b.opening := by
    rw [start]
    exact fun same => (front _ same).2 b rfl
  rw [told_readEntry_scalar _ other, start, found, Option.map_some,
    dropWhile_front blank' (by rintro d ⟨⟩; exact visible)]

theorem finds_word (blank : Blanks before) (word : Word s) : Part.value.Finds (before ++ s) := by
  intro c rest ends
  obtain ⟨separator, visible, opening⟩ := ends.separates
  have front : ∀ d ∈ (s ++ c :: rest).head?, isBlank d = false ∧ ∀ b : Bracket, d ≠ b.opening := by
    cases s with
    | nil =>
      rintro d ⟨⟩
      exact ⟨visible, opening⟩
    | cons d s =>
      rintro d ⟨⟩
      refine ⟨(word.front _ rfl).1, fun b same => ?_⟩
      have free := word.free _ List.mem_cons_self
      rw [same, (bracket_isSeparator b).1] at free
      cases free
  obtain ⟨e, found⟩ := word.found separator rest
  refine ⟨e, ?_⟩
  rw [List.append_assoc]
  exact told_readEntry_padded blank front found (List.forall_mem_nil _) visible

theorem finds_closed (blank : Blanks before) (closed : Closed s) (blank' : Blanks after) :
    Part.value.Finds (before ++ (s ++ after)) := by
  intro c rest ends
  obtain ⟨-, visible, -⟩ := ends.separates
  have front : ∀ d ∈ (s ++ (after ++ c :: rest)).head?,
      isBlank d = false ∧ ∀ b : Bracket, d ≠ b.opening := by
    cases closed <;> rintro d ⟨⟩ <;> exact ⟨rfl, fun b => by cases b <;> decide⟩
  obtain ⟨e, found⟩ := closed.found (after ++ c :: rest)
  refine ⟨e, ?_⟩
  rw [List.append_assoc, List.append_assoc]
  exact told_readEntry_padded blank front found blank' visible

theorem finds_bracket (blank : Blanks before) (inside : (Part.inside b).Finds s)
    (blank' : Blanks after) : Part.value.Finds (before ++ b.opening :: (s ++ after)) := by
  intro c rest ends
  obtain ⟨-, visible, -⟩ := ends.separates
  have start : ((before ++ b.opening :: (s ++ after)) ++ c :: rest).dropWhile isBlank =
      b.opening :: (s ++ (after ++ c :: rest)) := by
    rw [List.append_assoc, List.cons_append, List.append_assoc]
    refine dropWhile_front blank ?_
    rintro d ⟨⟩
    cases b <;> rfl
  refine ⟨.other, ?_⟩
  rw [told_readEntry_bracket start, inside (after ++ c :: rest), Option.map_some,
    dropWhile_front blank' (by rintro d ⟨⟩; exact visible)]

/-- A value does not begin as a bracket ends. -/
theorem Spelled.head (spelled : Spelled .value s) : s.head? ≠ some b.close := by
  have first {before front : List Char} (blank : Blanks before)
      (head : front.head? ≠ some b.close) : (before ++ front).head? ≠ some b.close := by
    cases before with
    | nil => exact head
    | cons d before =>
      rintro ⟨⟩
      have other := not_isSeparator_of_isBlank (blank _ List.mem_cons_self)
      cases other.symm.trans (bracket_isSeparator b).2
  cases spelled with
  | word blank word =>
    refine first blank fun head => ?_
    have other := word.free _ (List.mem_of_mem_head? head)
    cases other.symm.trans (bracket_isSeparator b).2
  | closed blank closed blank' =>
    refine first blank fun head => ?_
    cases closed <;> cases b <;> cases head
  | @bracket b' before s after blank inside blank' =>
    refine first blank fun head => ?_
    cases b' <;> cases b <;> cases head

/-- Only when it is closed at once is the bracket closed at the first character. -/
theorem empty_of_head (named : Named b name) (value : Spelled .value item)
    (head : (name ++ (item ++ s)).head? = some b.close) : name = [] ∧ item = [] := by
  have nameless : name = [] := by
    cases b with
    | list => exact named
    | table =>
      obtain ⟨before, key, after, blank, key_name, -, rfl⟩ := named
      cases before with
      | nil =>
        obtain ⟨c, t, rfl, -, other⟩ := key_name.head
        cases head
        cases other
      | cons d before =>
        cases head
        cases blank _ List.mem_cons_self
  subst nameless
  refine ⟨rfl, ?_⟩
  cases item with
  | nil => rfl
  | cons d item => exact absurd head value.head

theorem finds_items (named : Named b name) (value : Spelled .value item)
    (reads : Part.value.Finds item) (ends : Ends c) {last : List Char}
    (behind : afterItem b (c :: rest) = some ((), last))
    (closed : c = b.close → rest = last) :
    told (readEntries b (name ++ (item ++ c :: rest))) = some ((), last) := by
  rw [told_readEntries]
  split
  · rename_i head
    obtain ⟨rfl, rfl⟩ := empty_of_head named value head
    rw [← closed (Option.some.inj head)]
    rfl
  · obtain ⟨e, found⟩ := reads c rest ends
    rw [named.found, Option.bind_some, found, Option.bind_some]
    exact behind

/-- The reader accepts what is spelled as the grammar says. -/
theorem Spelled.finds {part : Part} (spelled : Spelled part s) : part.Finds s := by
  induction spelled with
  | word blank word => exact finds_word blank word
  | closed blank closed blank' => exact finds_closed blank closed blank'
  | bracket blank inside blank' ih => exact finds_bracket blank ih blank'
  | @close b =>
    intro rest
    rw [told_readEntries, List.singleton_append, List.head?_cons, if_pos rfl, List.tail_cons]
  | @last b name item named value ih =>
    intro rest
    have behind : afterItem b (b.close :: rest) = some ((), rest) := by
      rw [afterItem, if_neg (by cases b <;> simp [Bracket.close]), List.head?_cons, if_pos rfl,
        List.tail_cons]
    rw [List.append_assoc, List.append_assoc, List.singleton_append]
    exact finds_items named value ih (.inr ⟨b, rfl⟩) behind fun _ => rfl
  | @more b name item others named value spelled ih ihr =>
    intro rest
    have behind : afterItem b (',' :: (others ++ rest)) = some ((), rest) := by
      rw [afterItem, List.head?_cons, if_pos rfl, List.tail_cons]
      exact ihr rest
    rw [List.append_assoc, List.append_assoc, List.cons_append]
    refine finds_items named value ih (.inl rfl) behind fun same => ?_
    cases b <;> cases same

-- What stands behind a bracket, a name or a comma is no longer than the text, and the one reader
-- calls the other only there: the induction is on the length, as the recursion of the readers is.
mutual

theorem spelled_of_readEntry (s : List Char) {rest : List Char} {e : Entry}
    (h : told (readEntry s) = some (e, rest)) :
    ∃ front, s = front ++ rest ∧ Spelled .value front := by
  obtain ⟨before, blank, whole⟩ := exists_run isBlank s
  by_cases opens : ∃ b : Bracket, (s.dropWhile isBlank).head? = some b.opening
  · obtain ⟨b, opens⟩ := opens
    have opens := List.eq_cons_of_mem_head? opens
    rw [told_readEntry_bracket opens] at h
    obtain ⟨⟨⟨⟩, left⟩, found, same⟩ := Option.map_eq_some_iff.mp h
    have shorter : (s.dropWhile isBlank).tail.length < s.length := by
      have := congrArg List.length whole
      rw [opens, List.length_append, List.length_cons] at this
      omega
    obtain ⟨inside, split, spelled⟩ := spelled_of_readEntries b (s.dropWhile isBlank).tail found
    obtain ⟨after, blank', behind⟩ := exists_run isBlank left
    have last : left.dropWhile isBlank = rest := congrArg Prod.snd same
    refine ⟨_, ?_, .bracket blank spelled blank'⟩
    rw [whole, opens, split, behind, last]
    simp
  · have other (b : Bracket) : (s.dropWhile isBlank).head? ≠ some b.opening :=
      fun same => opens ⟨b, same⟩
    rw [told_readEntry_scalar s other] at h
    obtain ⟨⟨value, left⟩, found, same⟩ := Option.map_eq_some_iff.mp h
    have last : left.dropWhile isBlank = rest := congrArg Prod.snd same
    obtain ⟨front, split, closed | ⟨word, stop⟩⟩ := scalar_of_readScalar? found
      fun c hc => head?_dropWhile hc
    · obtain ⟨after, blank', behind⟩ := exists_run isBlank left
      refine ⟨_, ?_, .closed blank closed blank'⟩
      rw [whole, split, behind, last]
      simp
    · have ends : left.dropWhile isBlank = left := dropWhile_eq_self fun c hc => by
        refine Bool.eq_false_iff.mpr fun blank => ?_
        have separator := stop c hc
        cases separator.symm.trans (not_isSeparator_of_isBlank blank)
      refine ⟨_, ?_, .word blank word⟩
      rw [whole, split, ← last, ends]
      simp
termination_by 2 * s.length
decreasing_by omega

theorem spelled_of_readEntries (b : Bracket) (s : List Char) {rest : List Char}
    (h : told (readEntries b s) = some ((), rest)) :
    ∃ front, s = front ++ rest ∧ Spelled (.inside b) front := by
  rw [told_readEntries] at h
  split at h
  · rename_i head
    have tail : s.tail = rest := congrArg Prod.snd (Option.some.inj h)
    refine ⟨[b.close], ?_, .close⟩
    rw [← tail]
    exact List.eq_cons_of_mem_head? head
  · obtain ⟨⟨⟨⟩, start⟩, called, h⟩ := Option.bind_eq_some_iff.mp h
    obtain ⟨⟨value, left⟩, found, h⟩ := Option.bind_eq_some_iff.mp h
    obtain ⟨name, named, whole⟩ := named_of_afterName called
    have shorter : start.length ≤ s.length := by
      rw [whole, List.length_append]
      omega
    obtain ⟨item, split, spelled⟩ := spelled_of_readEntry start found
    simp only [afterItem] at h
    split at h
    · rename_i comma
      have left_eq := List.eq_cons_of_mem_head? comma
      have shorter' : left.tail.length < s.length := by
        have := congrArg List.length split
        have := congrArg List.length left_eq
        simp only [List.length_append, List.length_cons] at *
        omega
      obtain ⟨others, behind, rest_spelled⟩ := spelled_of_readEntries b left.tail h
      refine ⟨_, ?_, .more named spelled rest_spelled⟩
      rw [whole, split, left_eq, behind]
      simp
    · obtain ⟨closed, tail⟩ := Option.ite_none_right_eq_some.mp h
      refine ⟨_, ?_, .last named spelled⟩
      rw [whole, split, List.eq_cons_of_mem_head? closed,
        show left.tail = rest from congrArg Prod.snd (Option.some.inj tail)]
      simp
termination_by 2 * s.length + 1
decreasing_by all_goals omega

end

/-- What stands behind an opening bracket is accepted when it is spelled as the grammar says, and
only then. -/
theorem readEntries_iff (b : Bracket) (s rest : List Char) :
    told (readEntries b s) = some ((), rest) ↔
      ∃ front, s = front ++ rest ∧ Spelled (.inside b) front := by
  constructor
  · exact spelled_of_readEntries b s
  · rintro ⟨front, rfl, spelled⟩
    exact spelled.finds rest

end FileLease.Settings.Environment
