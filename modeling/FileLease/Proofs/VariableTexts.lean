import FileLease.Proofs.FoundPieces
import FileLease.Settings.Environment

/-!
# Pieces of variables

What can stand between quotation marks, and what is left of a text when a piece of a variable has
been read.
-/
namespace FileLease.Settings.Environment
open Text

/-- What can stand between quotation marks: characters other than controls and marks, tabs, and
escapes of marks, controls and numbered characters. -/
inductive Quoted : List Char → Prop
  | nil : Quoted []
  | plain {c : Char} {s : List Char} (visible : c = '\t' ∨ 0x20 ≤ c.toNat ∧ c.toNat ≠ 0x7F)
      (mark : c ≠ '\x22') (slash : c ≠ '\\') (rest : Quoted s) : Quoted (c :: s)
  | escape {c : Char} {s : List Char} (known : c ∈ ['\x22', '\\', 'b', 'f', 'n', 'r', 't'])
      (rest : Quoted s) : Quoted ('\\' :: c :: s)
  | point {c : Char} {digits s : List Char}
      (width : (c, digits.length) ∈ [('u', 4), ('U', 8)])
      (named : (codePoint? digits).isSome = true) (rest : Quoted s) :
      Quoted ('\\' :: c :: (digits ++ s))

variable {s rest digits : List Char} {c : Char}

theorem unescape_plain (slash : c ≠ '\\') : (unescape (c :: rest)).isSome = true ↔
    (c = '\t' ∨ 0x20 ≤ c.toNat ∧ c.toNat ≠ 0x7F) ∧ (unescape rest).isSome = true := by
  rw [unescape.eq_3 c rest fun _ _ h => absurd h slash]
  by_cases visible : c = '\t' ∨ 0x20 ≤ c.toNat ∧ c.toNat ≠ 0x7F
  · rw [if_pos ⟨slash, visible⟩, Option.isSome_map, and_iff_right visible]
  · rw [if_neg fun h => visible h.2]
    exact iff_of_false Bool.false_ne_true fun h => visible h.1

theorem unescape_escape (known : c ∈ ['\x22', '\\', 'b', 'f', 'n', 'r', 't']) :
    (unescape ('\\' :: c :: rest)).isSome = (unescape rest).isSome := by
  simp only [List.mem_cons, List.not_mem_nil, or_false] at known
  rcases known with rfl | rfl | rfl | rfl | rfl | rfl | rfl <;>
    simp +decide only [unescape.eq_2, if_true, if_false, Option.isSome_map]

theorem unescape_point_eq {count : Nat} (width : (c, count) ∈ [('u', 4), ('U', 8)]) :
    unescape ('\\' :: c :: rest) = if (rest.take count).length = count then
      (codePoint? (rest.take count)).bind fun d => (unescape (rest.drop count)).map (d :: ·)
      else none := by
  simp only [List.mem_cons, List.not_mem_nil, or_false, Prod.mk.injEq] at width
  rcases width with ⟨rfl, rfl⟩ | ⟨rfl, rfl⟩ <;>
    · simp +decide only [unescape.eq_2, if_true, if_false, ne_eq, ite_not]
      rfl

/-- The digits of a numbered character are as many as its sign tells. -/
theorem unescape_point {count : Nat} (width : (c, count) ∈ [('u', 4), ('U', 8)]) :
    (unescape ('\\' :: c :: rest)).isSome = true ↔ (rest.take count).length = count ∧
      (codePoint? (rest.take count)).isSome = true ∧
      (unescape (rest.drop count)).isSome = true := by
  rw [unescape_point_eq width]
  split
  · rename_i long
    rw [and_iff_right long]
    cases codePoint? (rest.take count) <;> simp
  · rename_i short
    exact iff_of_false Bool.false_ne_true fun h => short h.1

theorem unescape_unknown (other : c ∉ ['\x22', '\\', 'b', 'f', 'n', 'r', 't', 'u', 'U']) :
    unescape ('\\' :: c :: rest) = none := by
  simp only [List.mem_cons, List.not_mem_nil, or_false, not_or] at other
  simp only [unescape.eq_2, other, if_false, or_self]

/-- What stands behind a backslash: a character that is escaped, or the number of one. -/
theorem escape_of_unescape (reads : (unescape ('\\' :: c :: rest)).isSome = true) :
    (c ∈ ['\x22', '\\', 'b', 'f', 'n', 'r', 't'] ∧ (unescape rest).isSome = true) ∨
      ∃ digits tail, rest = digits ++ tail ∧ (c, digits.length) ∈ [('u', 4), ('U', 8)] ∧
        (codePoint? digits).isSome = true ∧ (unescape tail).isSome = true := by
  by_cases known : c ∈ ['\x22', '\\', 'b', 'f', 'n', 'r', 't']
  · rw [unescape_escape known] at reads
    exact .inl ⟨known, reads⟩
  · by_cases point : c ∈ ['u', 'U']
    · obtain ⟨count, width⟩ : ∃ count, (c, count) ∈ [('u', 4), ('U', 8)] := by
        simp only [List.mem_cons, List.not_mem_nil, or_false] at point
        rcases point with rfl | rfl
        · exact ⟨4, by decide⟩
        · exact ⟨8, by decide⟩
      obtain ⟨long, named, reads⟩ := (unescape_point width).mp reads
      exact .inr ⟨rest.take count, rest.drop count, (List.take_append_drop count rest).symm,
        by rwa [long], named, reads⟩
    · have unknown : c ∉ ['\x22', '\\', 'b', 'f', 'n', 'r', 't'] ++ ['u', 'U'] := by
        rw [List.mem_append, not_or]
        exact ⟨known, point⟩
      rw [unescape_unknown unknown] at reads
      cases reads

theorem isSome_of_mapM {f : Char → Option Nat} {values : List Nat} (h : s.mapM f = some values) :
    ∀ c ∈ s, (f c).isSome = true := by
  induction s generalizing values with
  | nil => exact List.forall_mem_nil _
  | cons c s ih =>
    rw [List.mapM_cons] at h
    obtain ⟨value, first, h⟩ := Option.bind_eq_some_iff.mp h
    obtain ⟨values, others, -⟩ := Option.bind_eq_some_iff.mp h
    exact List.forall_mem_cons.mpr ⟨Option.isSome_of_eq_some first, ih others⟩

/-- Digits that name a character are no marks. -/
theorem unmarked_of_codePoint? (named : (codePoint? digits).isSome = true) :
    ∀ d ∈ digits, d ≠ '\x22' ∧ d ≠ '\\' := by
  intro d hd
  have value : (hexValue? d).isSome = true := by
    obtain ⟨code, named⟩ := Option.isSome_iff_exists.mp named
    obtain ⟨n, read, -⟩ := Option.bind_eq_some_iff.mp named
    unfold readHex? at read
    split at read
    · cases read
    · obtain ⟨values, read, -⟩ := Option.map_eq_some_iff.mp read
      exact isSome_of_mapM read d hd
  constructor <;> rintro rfl <;> exact absurd value (by decide)

theorem quotedLength_plain (mark : c ≠ '\x22') (slash : c ≠ '\\') :
    quotedLength (c :: rest) = 1 + quotedLength rest := by
  rw [quotedLength.eq_3 c rest fun _ _ h => absurd h slash, if_neg mark]

theorem quotedLength_append (unmarked : ∀ d ∈ digits, d ≠ '\x22' ∧ d ≠ '\\') :
    quotedLength (digits ++ rest) = digits.length + quotedLength rest := by
  induction digits with
  | nil => simp
  | cons d digits ih =>
    obtain ⟨⟨mark, slash⟩, unmarked⟩ := List.forall_mem_cons.mp unmarked
    rw [List.cons_append, quotedLength_plain mark slash, ih unmarked, List.length_cons]
    omega

theorem quotedLength_mark (rest : List Char) : quotedLength ('\x22' :: rest) = 0 := by
  rw [quotedLength.eq_3 _ _ fun _ _ h => absurd h (by decide), if_pos rfl]

/-- A text in quotation marks goes up to the mark behind it, and its escapes can be read. -/
theorem Quoted.reads (quoted : Quoted s) (rest : List Char) :
    quotedLength (s ++ '\x22' :: rest) = s.length ∧ (unescape s).isSome = true := by
  induction quoted with
  | nil => exact ⟨quotedLength_mark rest, by rw [unescape]; rfl⟩
  | plain visible mark slash _ ih =>
    rw [List.cons_append, quotedLength_plain mark slash, ih.1, unescape_plain slash]
    exact ⟨Nat.add_comm _ _, visible, ih.2⟩
  | escape known _ ih =>
    rw [List.cons_append, List.cons_append, quotedLength, ih.1, unescape_escape known]
    exact ⟨Nat.add_comm _ _, ih.2⟩
  | @point c digits s width named _ ih =>
    have taken : (digits ++ s).take digits.length = digits := List.take_left
    have left : (digits ++ s).drop digits.length = s := List.drop_left
    rw [List.cons_append, List.cons_append, List.append_assoc, quotedLength,
      quotedLength_append (unmarked_of_codePoint? named), ih.1, unescape_point width, taken, left]
    refine ⟨?_, rfl, named, ih.2⟩
    simp only [List.length_cons, List.length_append]
    omega

/-- Nothing that is read up to a mark has another mark in it. -/
theorem quotedLength_take (s : List Char) :
    quotedLength (s.take (quotedLength s)) = (s.take (quotedLength s)).length := by
  fun_induction quotedLength s with
  | case1 => rfl
  | case2 c rest ih =>
    rw [Nat.add_comm, List.take_succ_cons, List.take_succ_cons, quotedLength, ih,
      List.length_cons, List.length_cons]
    omega
  | case3 rest => rfl
  | case4 c rest slash mark ih =>
    rw [Nat.add_comm, List.take_succ_cons, quotedLength.eq_3, if_neg mark, ih, List.length_cons,
      Nat.add_comm]
    intro d tail same taken
    cases rest with
    | nil => simp at taken
    | cons e rest => exact slash e rest same rfl

/-- A text without marks whose escapes can be read. -/
theorem quoted_of_unescape (s : List Char) (free : quotedLength s = s.length)
    (reads : (unescape s).isSome = true) : Quoted s := by
  match s with
  | [] => exact .nil
  | [c] =>
    by_cases slash : c = '\\'
    · rw [slash] at reads
      simp [unescape] at reads
    · have mark : c ≠ '\x22' := by
        rintro rfl
        simp [quotedLength] at free
      exact .plain ((unescape_plain slash).mp reads).1 mark slash .nil
  | c :: d :: rest =>
    by_cases slash : c = '\\'
    · subst slash
      have free : quotedLength rest = rest.length := by
        rw [quotedLength, List.length_cons, List.length_cons] at free
        omega
      obtain ⟨known, reads⟩ | ⟨digits, tail, whole, width, named, reads⟩ :=
        escape_of_unescape reads
      · exact .escape known (quoted_of_unescape rest free reads)
      · have shorter : tail.length ≤ rest.length := by
          rw [whole, List.length_append]
          omega
        rw [whole, quotedLength_append (unmarked_of_codePoint? named), List.length_append] at free
        rw [whole]
        exact .point width named (quoted_of_unescape tail (Nat.add_left_cancel free) reads)
    · have mark : c ≠ '\x22' := by
        rintro rfl
        rw [quotedLength_mark] at free
        cases free
      have free : quotedLength (d :: rest) = (d :: rest).length := by
        rw [quotedLength_plain mark slash, List.length_cons] at free
        omega
      obtain ⟨visible, reads⟩ := (unescape_plain slash).mp reads
      exact .plain visible mark slash (quoted_of_unescape (d :: rest) free reads)
termination_by s.length
decreasing_by all_goals simp <;> omega

/-- What was read and what is left of the text, without the proof that this is shorter. -/
def told {least : Nat} {s : List Char} {α : Type} (found : Option (Taken least s α)) :
    Option (α × List Char) :=
  found.map fun t => (t.value, t.rest)

theorem told_bind {m n : Nat} {s t : List Char} {α β : Type} {found : Option (Taken m s α)}
    {next : Taken m s α → Option (Taken n t β)} {g : α × List Char → Option (β × List Char)}
    (same : ∀ a, told (next a) = g (a.value, a.rest)) :
    told (found >>= next) = (told found).bind g := by
  cases found with
  | none => rfl
  | some a => exact same a

theorem told_behind {α β : Type} (f : α → β) (found : Option (Taken 0 s α)) :
    told (found.map fun t => ((t.map f).behind (c := c)).loosen) =
      (told found).map fun r => (f r.1, r.2) := by
  cases found <;> rfl

theorem told_readMark? (mark : Char) (s : List Char) :
    told (readMark? mark s) = if s.head? = some mark then some ((), s.tail) else none := by
  cases s with
  | nil => rfl
  | cons c s =>
    rw [readMark?]
    by_cases h : c = mark <;> simp [told, h, Taken.first]

theorem told_readQuoted (s : List Char) : told (readQuoted s) =
    (unescape (s.take (quotedLength s))).bind fun inside =>
      if (s.drop (quotedLength s)).head? = some '\x22' then
        some (String.ofList inside, s.drop (quotedLength s + 1)) else none := by
  rw [readQuoted]
  cases unescape (s.take (quotedLength s)) with
  | none => rfl
  | some inside =>
    simp only [Option.bind_eq_bind, Option.bind_some]
    split <;> rfl

theorem told_readKey (c : Char) (rest : List Char) : told (readKey (c :: rest)) =
    if c = '\x22' then (told (readQuoted rest)).map fun r => ((), r.2)
    else if isKeyChar c then some ((), rest.dropWhile isKeyChar) else none := by
  rw [readKey]
  split
  · simp only [told, Option.map_map]
    rfl
  · split <;> rfl

theorem told_readName (s : List Char) : told (readName s) =
    (told (readKey (s.dropWhile isBlank))).bind fun key =>
      if (key.2.dropWhile isBlank).head? = some '=' then
        some ((), (key.2.dropWhile isBlank).tail) else none := by
  rw [readName]
  refine told_bind fun key => ?_
  rw [← told_readMark?]
  show told (readMark? '=' (key.rest.dropWhile isBlank) >>= _) = _
  cases readMark? '=' (key.rest.dropWhile isBlank) <;> rfl

def Bracket.opening : Bracket → Char
  | .list => '['
  | .table => '\x7b'

theorem Bracket.opening_inj {b b' : Bracket} : b.opening = b'.opening ↔ b = b' := by
  cases b <;> cases b' <;> simp [opening]

theorem readOpening?_eq_some {t : Taken 1 s Bracket} (h : readOpening? s = some t) :
    s = t.value.opening :: t.rest := by
  unfold readOpening? at h
  split at h
  · cases h
  · rename_i c rest
    split at h
    · rename_i list
      cases h
      rw [list]
      rfl
    · split at h
      · rename_i table
        cases h
        rw [table]
        rfl
      · cases h

theorem readOpening?_opening (b : Bracket) (rest : List Char) :
    (readOpening? (b.opening :: rest)).isSome = true := by
  cases b <;> rfl

theorem told_readEntry_bracket {b : Bracket} (opens : s.dropWhile isBlank = b.opening :: rest) :
    told (readEntry s) = (told (readEntries b rest)).map fun r =>
      (.other, r.2.dropWhile isBlank) := by
  have opens : (skipBlanks s).rest = b.opening :: rest := opens
  rw [readEntry]
  cases opening : readOpening? (skipBlanks s).rest with
  | none =>
    have some := readOpening?_opening b rest
    rw [← opens, opening] at some
    cases some
  | some t =>
    obtain ⟨same, left⟩ := List.cons.inj (opens.symm.trans (readOpening?_eq_some opening))
    obtain rfl := Bracket.opening_inj.mp same
    subst left
    simp only [told, Option.map_map]
    rfl

theorem told_readEntry_scalar (s : List Char)
    (other : ∀ b : Bracket, (s.dropWhile isBlank).head? ≠ some b.opening) :
    told (readEntry s) = (told (readScalar? (s.dropWhile isBlank))).map fun r =>
      (r.1, r.2.dropWhile isBlank) := by
  have none : readOpening? (skipBlanks s).rest = none := by
    show readOpening? (s.dropWhile isBlank) = none
    cases h : s.dropWhile isBlank with
    | nil => rfl
    | cons c rest =>
      rw [h] at other
      have list : c ≠ '[' := fun same => other .list (congrArg some same)
      have table : c ≠ '\x7b' := fun same => other .table (congrArg some same)
      simp only [readOpening?, list, table, if_false]
  rw [readEntry, none]
  simp only [told, Option.map_map]
  rfl

def afterName : Bracket → List Char → Option (Unit × List Char)
  | .list, s => some ((), s)
  | .table, s => told (readName s)

def afterItem (b : Bracket) (s : List Char) : Option (Unit × List Char) :=
  if s.head? = some ',' then told (readEntries b s.tail)
  else if s.head? = some b.close then some ((), s.tail) else none

theorem told_afterItem (b : Bracket) (item : Taken 0 s Entry) : told (
    match readMark? ',' item.rest with
    | some comma => (readEntries b comma.rest).map fun t => item.followed (comma.followed t)
    | none => (readMark? b.close item.rest).map fun close => (item.followed close).loosen) =
    afterItem b item.rest := by
  have comma := told_readMark? ',' item.rest
  have close := told_readMark? b.close item.rest
  rw [afterItem]
  cases mark : readMark? ',' item.rest with
  | some t =>
    rw [mark] at comma
    split at comma
    · rename_i head
      have left : t.rest = item.rest.tail := congrArg Prod.snd (Option.some.inj comma)
      rw [if_pos head, ← left]
      dsimp only
      cases readEntries b t.rest <;> rfl
    · cases comma
  | none =>
    rw [mark] at comma
    split at comma
    · cases comma
    · rename_i head
      rw [if_neg head, ← close]
      cases readMark? b.close item.rest <;> rfl

theorem told_readEntries (b : Bracket) (s : List Char) : told (readEntries b s) =
    if s.head? = some b.close then some ((), s.tail)
    else (afterName b s).bind fun name => (told (readEntry name.2)).bind fun item =>
      afterItem b item.2 := by
  have close := told_readMark? b.close s
  rw [readEntries]
  cases mark : readMark? b.close s with
  | some t =>
    rw [mark] at close
    split at close
    · rename_i head
      rw [if_pos head, ← close]
      rfl
    · cases close
  | none =>
    rw [mark] at close
    split at close
    · cases close
    · rename_i head
      rw [if_neg head]
      cases b with
      | list =>
        dsimp only
        exact told_bind fun name => told_bind fun value => told_afterItem _ (name.followed value)
      | table =>
        dsimp only
        exact told_bind fun name => told_bind fun value => told_afterItem _ (name.followed value)

end FileLease.Settings.Environment
