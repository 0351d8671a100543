import Mathlib.Data.List.Basic
import FileLease.Proofs.FoundPieces
import FileLease.Toml.Printer
import FileLease.Toml.Reader

/-!
# Strings in TOML there and back

In whichever of its forms a string is written, it is read back.
-/
namespace FileLease.Toml
open Text

/-- The text `body` between marks stands for the characters `s`, and `run` marks stand before it.
Over several lines there are no three marks in a row; between quotation marks there may be
escapes. -/
inductive Spells (mark : Char) (lines : Bool) : (run : Nat) → (body s : List Char) → Prop
  | nil (run : Nat) : Spells mark lines run [] []
  | own {run : Nat} {body s : List Char} (several : lines = true) (few : run < 2)
      (rest : Spells mark lines (run + 1) body s) : Spells mark lines run (mark :: body) (mark :: s)
  | verbatim {c : Char} {body s : List Char} (run : Nat) (other : c ≠ mark)
      (slash : mark = '\x22' → c ≠ '\\') (plain : isPlain c = true ∨ lines = true ∧ c = '\n')
      (rest : Spells mark lines 0 body s) : Spells mark lines run (c :: body) (c :: s)
  | escape {c : Char} {text body s : List Char} (run : Nat) (quotes : mark = '\x22')
      (reads : ∀ tail, Finds (readEscape? (text ++ tail)) c tail)
      (rest : Spells mark lines 0 body s) : Spells mark lines run ('\\' :: (text ++ body)) (c :: s)

variable {mark : Char} {lines : Bool} {run : Nat} {body s tail : List Char}

/-- What is spelled on one line is read up to the next mark. -/
theorem readLine?_spelled (spelled : Spells mark false run body s) :
    Finds (readLine? mark (body ++ mark :: tail)) s tail := by
  induction spelled with
  | nil =>
    rw [List.nil_append, readLine?, if_pos rfl]
    exact ⟨_, rfl⟩
  | own several => cases several
  | verbatim run other slash plain rest ih =>
    obtain ⟨h, read⟩ := ih
    have plain := plain.resolve_right fun several => Bool.false_ne_true several.1
    rw [List.cons_append, readLine?, if_neg other, if_neg fun h => slash h.2 h.1, if_pos plain,
      read]
    exact ⟨_, rfl⟩
  | @escape c text body s run quotes reads rest ih =>
    subst quotes
    obtain ⟨h, read⟩ := ih
    obtain ⟨h', escape⟩ := reads (body ++ '\x22' :: tail)
    rw [List.cons_append, List.append_assoc, readLine?, if_neg (by decide), if_pos ⟨rfl, rfl⟩,
      escape]
    simp only [pure, read]
    exact ⟨_, rfl⟩

/-- The marks at the front are all that there is, or something else follows them. -/
theorem Spells.front (spelled : Spells mark true run body s) :
    (∃ k, k + run ≤ max run 2 ∧ body = List.replicate k mark ∧ s = body) ∨
      ∃ k c rest, k + run ≤ max run 2 ∧ body = List.replicate k mark ++ c :: rest ∧ c ≠ mark := by
  induction spelled with
  | nil run => exact .inl ⟨0, by omega, rfl, rfl⟩
  | own several few rest ih =>
    obtain ⟨k, hk, rfl, rfl⟩ | ⟨k, c, after, hk, rfl, other⟩ := ih
    · exact .inl ⟨k + 1, by omega, rfl, rfl⟩
    · exact .inr ⟨k + 1, c, after, by omega, rfl, other⟩
  | verbatim run other => exact .inr ⟨0, _, _, by omega, rfl, other⟩
  | escape run quotes => exact .inr ⟨0, _, _, by omega, rfl, by rw [quotes]; decide⟩

theorem runLength_replicate (k : Nat) (stop : tail.head? ≠ some mark) :
    runLength mark (List.replicate k mark ++ tail) = k := by
  have none : tail.takeWhile (· = mark) = [] := by
    cases tail with
    | nil => rfl
    | cons c rest =>
      exact List.takeWhile_cons_of_neg fun h => stop (by rw [of_decide_eq_true h]; rfl)
  rw [runLength,
    List.takeWhile_append_of_pos fun c hc => decide_eq_true (List.eq_of_mem_replicate hc),
    none, List.append_nil, List.length_replicate]

/-- A line does not end before an escape. -/
theorem readLineGap?_escape {s : List Char} {c : Char} (reads : Finds (readEscape? s) c tail) :
    readLineGap? s = none := by
  obtain ⟨h, read⟩ := reads
  cases s with
  | nil => cases read
  | cons d rest =>
    by_cases blank : isBlank d = true ∨ d = '\n' ∨ d = '\r'
    · have none : ∀ d, isBlank d = true ∨ d = '\n' ∨ d = '\r' → readEscape? (d :: rest) = none := by
        rintro d (blank | rfl | rfl)
        · obtain rfl | rfl : d = ' ' ∨ d = '\t' := by simpa [isBlank] using blank
          · rfl
          · rfl
        · rfl
        · rfl
      rw [none d blank] at read
      cases read
    · simp only [not_or] at blank
      simp [readLineGap?, takeRun, readNewline?, blank]

theorem readNewline?_plain {c : Char} (plain : isPlain c = true) (rest : List Char) :
    readNewline? (c :: rest) = none := by
  have : c ≠ '\n' ∧ c ≠ '\r' := by
    constructor <;> rintro rfl <;> exact absurd plain (by decide)
  simp [readNewline?, this]

/-- The closing marks of several lines, and those that stand before them. -/
theorem readLines?_close {k : Nat} (few : k ≤ 2) (stop : tail.head? ≠ some mark) :
    Finds (readLines? mark (List.replicate (k + 3) mark ++ tail)) (List.replicate k mark) tail := by
  have length := runLength_replicate (k + 3) stop
  have cons : List.replicate (k + 3) mark ++ tail =
      mark :: (List.replicate (k + 2) mark ++ tail) := rfl
  rw [cons] at length ⊢
  have rest : (mark :: (List.replicate (k + 2) mark ++ tail)).drop (max 1 (k + 3)) = tail := by
    rw [← cons, Nat.max_eq_right (by omega), List.drop_left' List.length_replicate]
  rw [readLines?, if_pos rfl]
  simp only [length, rest, Nat.add_sub_cancel]
  rw [if_pos (by omega), dif_neg (by omega)]
  exact ⟨_, rfl⟩

/-- A mark of a text. -/
theorem readLines?_own {rest : List Char} (few : runLength mark (mark :: rest) < 3)
    (read : Finds (readLines? mark rest) s tail) :
    Finds (readLines? mark (mark :: rest)) (mark :: s) tail := by
  obtain ⟨h, read⟩ := read
  rw [readLines?, if_pos rfl]
  simp only [read]
  rw [if_neg (by omega)]
  exact ⟨_, rfl⟩

/-- What is spelled over several lines is read up to the next three marks. -/
theorem readLines?_spelled (spelled : Spells mark true run body s) (hrun : run ≤ 2)
    (stop : tail.head? ≠ some mark) :
    Finds (readLines? mark (body ++ mark :: mark :: mark :: tail)) s tail := by
  induction spelled with
  | nil run => exact readLines?_close (Nat.zero_le 2) stop
  | @own run body s several few rest ih =>
    obtain ⟨k, hk, all, same⟩ | ⟨k, c, after, hk, front, other⟩ :=
      (Spells.own several few rest).front
    -- marks that reach the closing ones are counted with them
    · have text : mark :: body ++ mark :: mark :: mark :: tail =
          List.replicate (k + 3) mark ++ tail := by
        rw [all, List.replicate_add, List.append_assoc]
        rfl
      rw [text, same, all]
      exact readLines?_close (by omega) stop
    · refine readLines?_own ?_ (ih (by omega))
      have text : mark :: (body ++ mark :: mark :: mark :: tail) =
          List.replicate k mark ++ c :: (after ++ mark :: mark :: mark :: tail) := by
        rw [← List.cons_append, front, List.append_assoc, List.cons_append]
      change runLength mark (mark :: (body ++ mark :: mark :: mark :: tail)) < 3
      rw [text, runLength_replicate k (by simpa using other)]
      omega
  | @verbatim c body s run other slash plain rest ih =>
    obtain ⟨h, read⟩ := ih (by omega)
    rw [List.cons_append, readLines?, if_neg other, if_neg fun h => slash h.2 h.1]
    obtain plain | ⟨-, rfl⟩ := plain
    · simp only [readNewline?_plain plain, plain, if_true, read]
      exact ⟨_, rfl⟩
    · simp only [readNewline?, Taken.first, read]
      exact ⟨_, rfl⟩
  | @escape c text body s run quotes reads rest ih =>
    subst quotes
    obtain ⟨h, read⟩ := ih (by omega)
    obtain ⟨h', escape⟩ := reads (body ++ '\x22' :: '\x22' :: '\x22' :: tail)
    have gap := readLineGap?_escape ⟨h', escape⟩
    rw [List.cons_append, List.append_assoc, readLines?, if_neg (by decide), if_pos ⟨rfl, rfl⟩]
    simp only [gap, escape]
    simp only [pure, read]
    exact ⟨_, rfl⟩

theorem isPlain_of_not_needsEscape {c : Char} (h : needsEscape c = false) :
    isPlain c = true ∨ c = '\n' := by
  simp only [needsEscape, Bool.or_eq_false_iff, Bool.and_eq_false_iff, decide_eq_false_iff_not,
    ne_eq, Decidable.not_not] at h
  by_cases newline : c = '\n'
  · exact .inr newline
  · refine .inl ?_
    simp only [isPlain, Bool.or_eq_true, Bool.and_eq_true, decide_eq_true_eq]
    have := h.1.resolve_right newline
    exact .inr ⟨by omega, h.2⟩

/-- The length of the longest run of a character, after a run and the longest one so far. -/
def longestFrom (c : Char) (run longest : Nat) : List Char → Nat
  | [] => longest
  | d :: s =>
    if d = c then longestFrom c (run + 1) (max longest (run + 1)) s else longestFrom c 0 longest s

theorem longestRun_eq (c : Char) (s : List Char) : longestRun c s = longestFrom c 0 0 s := by
  have general (run longest : Nat) : (s.foldl (fun past d =>
      if d = c then (past.1 + 1, max past.2 (past.1 + 1)) else (0, past.2)) (run, longest)).2 =
      longestFrom c run longest s := by
    induction s generalizing run longest with
    | nil => rfl
    | cons d s ih =>
      rw [longestFrom, List.foldl_cons]
      by_cases own : d = c
      · simp only [if_pos own, ih]
      · simp only [if_neg own, ih]
  exact general 0 0

theorem le_longestFrom (c : Char) (run longest : Nat) (s : List Char) :
    longest ≤ longestFrom c run longest s := by
  induction s generalizing run longest with
  | nil => exact Nat.le_refl _
  | cons d s ih =>
    rw [longestFrom]
    split
    · exact Nat.le_trans (Nat.le_max_left _ _) (ih _ _)
    · exact ih _ _

/-- The characters of a text stand for themselves if no run of marks is too long. -/
theorem spells_verbatim (plain : s.any needsEscape = false) (line : lines = true ∨ '\n' ∉ s)
    (slash : mark = '\x22' → '\\' ∉ s) {longest : Nat}
    (runs : longestFrom mark run longest s ≤ if lines then 2 else 0) :
    Spells mark lines run s s := by
  induction s generalizing run longest with
  | nil => exact .nil run
  | cons c s ih =>
    rw [List.any_cons, Bool.or_eq_false_iff] at plain
    simp only [List.mem_cons, not_or] at line slash
    have rest {run longest : Nat}
        (runs : longestFrom mark run longest s ≤ if lines then 2 else 0) :=
      ih plain.2 (line.imp_right (·.2)) (fun h => (slash h).2) runs
    rw [longestFrom] at runs
    by_cases own : c = mark
    · subst own
      rw [if_pos rfl] at runs
      have bound := Nat.le_trans (le_longestFrom _ _ _ _) runs
      have several : lines = true := by
        cases lines with
        | true => rfl
        | false =>
          simp only [Bool.false_eq_true, if_false] at bound
          omega
      simp only [several, if_true] at bound
      exact .own several (by omega) (rest runs)
    · rw [if_neg own] at runs
      refine .verbatim run own (fun h => Ne.symm (slash h).1) ?_ (rest runs)
      obtain plain | rfl := isPlain_of_not_needsEscape plain.1
      · exact .inl plain
      · exact .inr ⟨line.resolve_right fun h => h.1 rfl, rfl⟩

/-- The four digits of a small code point. -/
theorem codePoint : ∀ n < 0x80, (hexUpper 4 n).length = 4 ∧ readHex? (hexUpper 4 n) = some n := by
  decide +kernel

theorem readEscape?_codePoint (s : List Char) :
    readEscape? ('u' :: s) = (readCodePoint? 4 s).map (·.behind) := by
  simp [readEscape?]

/-- A control is read from its escape. -/
theorem escapeControl_reads {c : Char} (control : needsEscape c = true ∨ c = '\n') :
    ∃ text, escapeControl c = '\\' :: text ∧ ∀ tail, Finds (readEscape? (text ++ tail)) c tail := by
  unfold escapeControl
  split
  next h => exact ⟨_, rfl, fun tail => ⟨_, by rw [← Char.ofNat_toNat c, h]; rfl⟩⟩
  split
  next h => exact ⟨_, rfl, fun tail => ⟨_, by rw [h]; rfl⟩⟩
  split
  next h => exact ⟨_, rfl, fun tail => ⟨_, by rw [h]; rfl⟩⟩
  split
  next h => exact ⟨_, rfl, fun tail => ⟨_, by rw [← Char.ofNat_toNat c, h]; rfl⟩⟩
  split
  next h => exact ⟨_, rfl, fun tail => ⟨_, by rw [h]; rfl⟩⟩
  next newline _ _ =>
    have small : c.toNat < 0x80 := by
      obtain control | rfl := control
      · simp only [needsEscape, Bool.or_eq_true, Bool.and_eq_true, decide_eq_true_eq] at control
        omega
      · decide
    obtain ⟨length, digits⟩ := codePoint c.toNat small
    refine ⟨_, rfl, fun tail => ?_⟩
    have front : (hexUpper 4 c.toNat ++ tail).take 4 = hexUpper 4 c.toNat := List.take_left' length
    have rest : (hexUpper 4 c.toNat ++ tail).drop 4 = tail := List.drop_left' length
    have scalar : c.toNat < 0xD800 ∨ 0xDFFF < c.toNat ∧ c.toNat < 0x110000 := .inl (by omega)
    have read : Finds (readCodePoint? 4 (hexUpper 4 c.toNat ++ tail)) c tail := by
      simp only [readCodePoint?, front, rest, length, digits, Option.bind_eq_bind, Option.bind_some,
        if_pos scalar, Char.ofNat_toNat]
      exact ⟨_, rfl⟩
    obtain ⟨h, read⟩ := read
    rw [List.cons_append, readEscape?_codePoint, read]
    exact ⟨_, rfl⟩

theorem spells_escapeText (lines : Bool) (run : Nat) (s : List Char) :
    Spells '\x22' lines run (escapeText lines run s) s := by
  induction s generalizing run with
  | nil => exact .nil run
  | cons c s ih =>
    rw [escapeText]
    split
    next quote =>
      subst quote
      split
      next h =>
        simp only [Bool.and_eq_true, decide_eq_true_eq] at h
        exact .own h.1 h.2 (ih (run + 1))
      next =>
        have reads (tail : List Char) : Finds (readEscape? (['\x22'] ++ tail)) '\x22' tail :=
          ⟨_, rfl⟩
        exact .escape run rfl reads (ih 0)
    next quote =>
      split
      next slash =>
        subst slash
        have reads (tail : List Char) : Finds (readEscape? (['\\'] ++ tail)) '\\' tail :=
          ⟨_, rfl⟩
        exact .escape run rfl reads (ih 0)
      next slash =>
        split
        next h =>
          simp only [Bool.or_eq_true, Bool.and_eq_true, decide_eq_true_eq] at h
          obtain ⟨text, same, reads⟩ := escapeControl_reads (h.imp_right And.left)
          rw [same]
          exact .escape run rfl reads (ih 0)
        next h =>
          simp only [Bool.or_eq_true, not_or, Bool.not_eq_true] at h
          refine .verbatim run quote (fun _ => slash) ?_ (ih 0)
          obtain plain | rfl := isPlain_of_not_needsEscape h.1
          · exact .inl plain
          · exact .inr ⟨by simpa using h.2, rfl⟩

def IsMark (mark : Char) : Prop :=
  mark = '\x22' ∨ mark = '\''

/-- A string is written between marks as something that stands for it. -/
theorem textValue_eq (s : List Char) : ∃ mark lines body, IsMark mark ∧
    textValue s = enclosed mark lines s body ∧ Spells mark lines 0 body s := by
  have verbatim {mark : Char} {lines : Bool} (plain : s.any needsEscape = false)
      (line : lines = true ∨ '\n' ∉ s) (slash : mark = '\x22' → '\\' ∉ s)
      (runs : longestRun mark s ≤ if lines then 2 else 0) : Spells mark lines 0 s s :=
    spells_verbatim plain line slash (longestRun_eq mark s ▸ runs)
  unfold textValue
  simp only [Bool.and_eq_true, Bool.not_eq_true', List.contains_eq_mem, decide_eq_false_iff_not,
    decide_eq_true_eq]
  split
  next h =>
    obtain ⟨⟨⟨plain, line⟩, slash⟩, quotes⟩ := h
    exact ⟨_, _, _, .inl rfl, rfl, verbatim plain (.inr line) (fun _ => slash) (by simp [quotes])⟩
  split
  next h =>
    obtain ⟨⟨plain, line⟩, apostrophes⟩ := h
    exact ⟨_, _, _, .inr rfl, rfl, verbatim plain (.inr line) (fun h => absurd h (by decide))
      (by simp [apostrophes])⟩
  split
  next h =>
    obtain ⟨⟨plain, slash⟩, quotes⟩ := h
    exact ⟨_, _, _, .inl rfl, rfl, verbatim plain (.inl rfl) (fun _ => slash) quotes⟩
  split
  next h =>
    obtain ⟨plain, apostrophes⟩ := h
    exact ⟨_, _, _, .inr rfl, rfl, verbatim plain (.inl rfl) (fun h => absurd h (by decide))
      apostrophes⟩
  next => exact ⟨_, _, _, .inl rfl, rfl, spells_escapeText _ 0 s⟩

/-- A line ends at the front of what is spelled only if one ends in the text. -/
theorem Spells.newline_none (spelled : Spells mark lines run body s) (isMark : IsMark mark)
    (line : '\n' ∉ s) (tail : List Char) : readNewline? (body ++ mark :: tail) = none := by
  have own (rest : List Char) : readNewline? (mark :: rest) = none := by
    obtain rfl | rfl := isMark
    · rfl
    · rfl
  cases spelled with
  | nil => exact own _
  | own several few rest => exact own _
  | verbatim run other slash plain rest =>
    refine readNewline?_plain (plain.resolve_right fun newline => line ?_) _
    exact newline.2 ▸ List.mem_cons_self
  | escape run quotes reads rest => rfl

/-- What is spelled on one line does not look as if it had several. -/
theorem Spells.one_line (spelled : Spells mark false run body s) (stop : tail.head? ≠ some mark)
    (rest : List Char) : body ++ mark :: tail ≠ mark :: mark :: rest := by
  intro same
  cases spelled with
  | nil => exact stop (by rw [(List.cons.inj same).2]; rfl)
  | own several => cases several
  | verbatim run other => exact other (List.cons.inj same).1
  | escape run quotes =>
    rw [quotes] at same
    exact absurd (List.cons.inj same).1 (by decide)

theorem readText?_line (one : ∀ rest, s ≠ mark :: mark :: rest) :
    readText? mark s = (readLine? mark s).map (·.map String.ofList) := by
  unfold readText?
  split
  next a b rest =>
    rw [if_neg]
    rintro ⟨rfl, rfl⟩
    exact one rest rfl
  next => rfl

/-- A line that ends behind the opening marks of several lines does not belong to the string. -/
theorem readText?_newline (read : Finds (readLines? mark body) s tail) :
    Finds (readText? mark (mark :: mark :: '\n' :: body)) (String.ofList s) tail := by
  obtain ⟨h, read⟩ := read
  rw [readText?, if_pos ⟨rfl, rfl⟩]
  change Finds ((readLines? mark body).map _) _ _
  rw [read]
  exact ⟨_, rfl⟩

theorem readText?_lines (line : readNewline? body = none)
    (read : Finds (readLines? mark body) s tail) :
    Finds (readText? mark (mark :: mark :: body)) (String.ofList s) tail := by
  obtain ⟨h, read⟩ := read
  rw [readText?, if_pos ⟨rfl, rfl⟩, line]
  change Finds ((readLines? mark body).map _) _ _
  rw [read]
  exact ⟨_, rfl⟩

/-- A string is read back. -/
theorem readText?_textValue (s tail : List Char) (quote : tail.head? ≠ some '\x22')
    (apostrophe : tail.head? ≠ some '\'') : ∃ mark rest, IsMark mark ∧
    textValue s ++ tail = mark :: rest ∧
    Finds (readText? mark rest) (String.ofList s) tail := by
  obtain ⟨mark, lines, body, isMark, text, spelled⟩ := textValue_eq s
  have stop : tail.head? ≠ some mark := by
    obtain rfl | rfl := isMark
    · exact quote
    · exact apostrophe
  rw [text]
  cases lines with
  | false =>
    have ends : enclosed mark false s body ++ tail = mark :: (body ++ mark :: tail) := by
      simp [enclosed]
    obtain ⟨h, read⟩ : Finds (readLine? mark (body ++ mark :: tail)) s tail :=
      readLine?_spelled spelled
    refine ⟨mark, _, isMark, ends, ?_⟩
    rw [readText?_line (spelled.one_line stop), read]
    exact ⟨_, rfl⟩
  | true =>
    have read := readLines?_spelled spelled (Nat.zero_le 2) stop
    by_cases newline : '\n' ∈ s
    · have ends : enclosed mark true s body ++ tail =
          mark :: mark :: mark :: '\n' :: (body ++ mark :: mark :: mark :: tail) := by
        simp [enclosed, threeTimes, newline]
      exact ⟨mark, _, isMark, ends, readText?_newline read⟩
    · have ends : enclosed mark true s body ++ tail =
          mark :: mark :: mark :: (body ++ mark :: mark :: mark :: tail) := by
        simp [enclosed, threeTimes, newline]
      exact ⟨mark, _, isMark, ends, readText?_lines (spelled.newline_none isMark newline _) read⟩

end FileLease.Toml
