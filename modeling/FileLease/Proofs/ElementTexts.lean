import FileLease.Http.Refusal
import Mathlib.Data.List.Infix

/-!
# First pieces and elements of a text

A piece is found where it stands first, and an element is what stands between the first tag that
opens it and the first one behind that which closes it.
-/
namespace FileLease.Http
open Text

/-- A piece stands in a text between what is before and after it, and nowhere further in front. -/
structure FirstAt (piece s before after : List Char) : Prop where
  whole : s = before ++ (piece ++ after)
  first : ∀ front rest, s = front ++ (piece ++ rest) → before.length ≤ front.length

variable {piece s before after : List Char} {c : Char}

theorem firstAt_nil (hp : piece <+: s) : FirstAt piece s [] (s.drop piece.length) where
  whole := (List.prefix_iff_eq_append.mp hp).symm
  first _ _ _ := Nat.zero_le _

/-- A piece that does not stand at the front stands where it does behind the first character. -/
theorem firstAt_cons_iff (away : ¬ piece <+: c :: s) :
    FirstAt piece (c :: s) (c :: before) after ↔ FirstAt piece s before after := by
  constructor
  · rintro ⟨whole, first⟩
    refine ⟨(List.cons.inj whole).2, fun front rest hs => ?_⟩
    exact Nat.le_of_succ_le_succ (first (c :: front) rest (by rw [hs, List.cons_append]))
  · rintro ⟨rfl, first⟩
    refine ⟨rfl, fun front rest hs => ?_⟩
    cases front with
    | nil => exact absurd ⟨rest, hs.symm⟩ away
    | cons d front => exact Nat.succ_le_succ (first front rest (List.cons.inj hs).2)

/-- What is found at the first piece is what stands before and after it. -/
theorem firstAt_of_splitAt? (h : splitAt? piece s = some (before, after)) :
    FirstAt piece s before after := by
  induction s generalizing before with
  | nil =>
    rw [splitAt?] at h
    split at h
    · rename_i empty
      cases h
      rw [List.isEmpty_iff.mp empty]
      exact firstAt_nil (List.prefix_refl [])
    · cases h
  | cons c s ih =>
    rw [splitAt?] at h
    split at h
    · rename_i front
      cases h
      exact firstAt_nil (List.isPrefixOf_iff_prefix.mp front)
    · rename_i away
      obtain ⟨⟨before', after'⟩, found, same⟩ := Option.map_eq_some_iff.mp h
      cases same
      exact (firstAt_cons_iff (by simpa using away)).mpr (ih found)

theorem splitAt?_eq_none_iff : splitAt? piece s = none ↔ ¬ piece <:+: s := by
  induction s with
  | nil => simp [splitAt?]
  | cons c s ih =>
    rw [splitAt?, List.infix_cons_iff, not_or, ← List.isPrefixOf_iff_prefix]
    split
    · simp [*]
    · simp [*]

namespace FirstAt

variable {before' after' : List Char}

/-- The text up to the end of the piece, and the rest. -/
theorem split (h : FirstAt piece s before after) : s = (before ++ piece) ++ after := by
  rw [h.whole, List.append_assoc]

theorem occurs (h : FirstAt piece s before after) : piece <:+: s :=
  ⟨before, after, h.split.symm⟩

/-- There is one place where a piece stands first. -/
theorem unique (h : FirstAt piece s before after) (h' : FirstAt piece s before' after') :
    before = before' ∧ after = after' := by
  have length : before.length = before'.length :=
    Nat.le_antisymm (h.first _ _ h'.whole) (h'.first _ _ h.whole)
  obtain ⟨same, rest⟩ := List.append_inj (h.whole.symm.trans h'.whole) length
  exact ⟨same, List.append_cancel_left rest⟩

end FirstAt

theorem splitAt?_eq_some_iff :
    splitAt? piece s = some (before, after) ↔ FirstAt piece s before after := by
  refine ⟨firstAt_of_splitAt?, fun h => ?_⟩
  cases found : splitAt? piece s with
  | none => exact absurd h.occurs (splitAt?_eq_none_iff.mp found)
  | some parts =>
    have first : FirstAt piece s parts.1 parts.2 := firstAt_of_splitAt? found
    obtain ⟨same, rest⟩ := first.unique h
    rw [← same, ← rest]

section
variable {p : Char} {ps l w rest : List Char}

/-- A piece that begins with a character that it has nowhere else does not begin in what comes
before that character and end behind it. -/
theorem prefix_of_prefix_append (hp : p ∉ ps) (hl : l ≠ [])
    (h : p :: ps <+: l ++ p :: rest) : p :: ps <+: l := by
  rcases List.prefix_or_prefix_of_prefix h (List.prefix_append l _) with inside | ⟨k, hk⟩
  · exact inside
  · -- otherwise the rest of the piece begins where the piece begins again
    rw [← hk, List.prefix_append_right_inj] at h
    cases k with
    | nil => exact ⟨[], by rw [← hk, List.append_nil, List.append_nil]⟩
    | cons c k =>
      obtain ⟨t, ht⟩ := h
      have hc : c = p := (List.cons.inj ht).1
      cases l with
      | nil => exact absurd rfl hl
      | cons d l =>
        have inside : l ++ c :: k = ps := (List.cons.inj hk).2
        have again : c ∈ ps := by
          rw [← inside]
          exact List.mem_append_right l List.mem_cons_self
        exact absurd (hc ▸ again) hp

theorem splitAt?_first (hp : p ∉ ps) (h : ¬ p :: ps <:+: before) (rest : List Char) :
    splitAt? (p :: ps) (before ++ (p :: ps ++ rest)) = some (before, rest) := by
  induction before with
  | nil => simp [splitAt?]
  | cons c before ih =>
    have later : ¬ p :: ps <+: (c :: before) ++ (p :: ps ++ rest) := fun hpre =>
      h (prefix_of_prefix_append hp (List.cons_ne_nil c before) hpre).isInfix
    have ih := ih fun hin => h (hin.trans (List.suffix_cons c before).isInfix)
    rw [List.cons_append] at later ⊢
    rw [splitAt?, if_neg (by simpa using later), ih]
    rfl

/-- Such a piece stands nowhere in what is longer by that character and others behind it, unless it
stands there. -/
theorem not_infix_append (hp : p ∉ ps) (absent : ¬ p :: ps <:+: l) (away : p ∉ w)
    (other : ¬ ps <+: w) : ¬ p :: ps <:+: l ++ p :: w := by
  induction l with
  | nil =>
    rw [List.nil_append, List.infix_cons_iff]
    rintro (front | inside)
    · exact other (List.cons_prefix_cons.mp front).2
    · exact away (inside.subset List.mem_cons_self)
  | cons c l ih =>
    rw [List.cons_append, List.infix_cons_iff]
    rintro (front | inside)
    · exact absent (prefix_of_prefix_append hp (List.cons_ne_nil c l) front).isInfix
    · exact ih (fun h => absent (h.trans (List.suffix_cons c l).isInfix)) inside

end

def openTag (name : List Char) : List Char := '<' :: name ++ ['>']
def closeTag (name : List Char) : List Char := '<' :: '/' :: name ++ ['>']

theorem openTag_eq (name : List Char) : openTag name = '<' :: (name ++ ['>']) := rfl

theorem closeTag_eq (name : List Char) : closeTag name = '<' :: '/' :: (name ++ ['>']) := rfl

/-- The text of the first element of a name in a body, without blanks at its ends. -/
def Element (body name text : List Char) : Prop :=
  ∃ before after inside rest, FirstAt (openTag name) body before after ∧
    FirstAt (closeTag name) after inside rest ∧ text = strip isBlank inside

theorem elementText?_eq_some_iff {body name text : List Char} :
    elementText? body name = some text ↔ Element body name text := by
  constructor
  · intro h
    obtain ⟨⟨before, after⟩, opened, h⟩ := Option.bind_eq_some_iff.mp h
    obtain ⟨⟨inside, rest⟩, closed, h⟩ := Option.bind_eq_some_iff.mp h
    exact ⟨before, after, inside, rest, firstAt_of_splitAt? opened, firstAt_of_splitAt? closed,
      (Option.some.inj h).symm⟩
  · rintro ⟨before, after, inside, rest, opened, closed, rfl⟩
    have opened := splitAt?_eq_some_iff.mpr opened
    have closed := splitAt?_eq_some_iff.mpr closed
    rw [openTag] at opened
    rw [closeTag] at closed
    rw [elementText?, opened]
    simp only [Option.bind_eq_bind, Option.bind_some, closed]
    rfl

/-- No tag opens an element of a name in a body, or none behind the first that does closes it. -/
def Lacks (body name : List Char) : Prop :=
  ¬ openTag name <:+: body ∨
    ∃ before after, FirstAt (openTag name) body before after ∧ ¬ closeTag name <:+: after

theorem elementText?_eq_none_iff {body name : List Char} :
    elementText? body name = none ↔ Lacks body name := by
  constructor
  · intro none
    rw [Lacks, or_iff_not_imp_left, not_not]
    intro opened
    cases found : splitAt? (openTag name) body with
    | none => exact absurd opened (splitAt?_eq_none_iff.mp found)
    | some parts =>
      refine ⟨parts.1, parts.2, firstAt_of_splitAt? found, splitAt?_eq_none_iff.mp ?_⟩
      cases closed : splitAt? (closeTag name) parts.2 with
      | none => rfl
      | some ends =>
        cases none.symm.trans (elementText?_eq_some_iff.mpr ⟨parts.1, parts.2, ends.1, ends.2,
          firstAt_of_splitAt? found, firstAt_of_splitAt? closed, rfl⟩)
  · intro lacks
    refine Option.eq_none_iff_forall_not_mem.mpr fun text read => ?_
    obtain ⟨before, after, inside, rest, opened, closed, -⟩ := elementText?_eq_some_iff.mp read
    obtain absent | ⟨before', after', opened', unclosed⟩ := lacks
    · exact absent opened.occurs
    · rw [(opened'.unique opened).2] at unclosed
      exact unclosed closed.occurs

/-- The first element is read, whatever comes behind it. -/
theorem elementText?_first {before name text : List Char} (named : '<' ∉ name)
    (first : ¬ openTag name <:+: before) (inside : ¬ closeTag name <:+: text)
    (after : List Char) :
    elementText? (before ++ (openTag name ++ (text ++ (closeTag name ++ after)))) name =
      some (strip isBlank text) := by
  rw [openTag_eq] at first ⊢
  rw [closeTag_eq] at inside ⊢
  have opened := splitAt?_first (by simpa using named) first (text ++ ('<' :: '/' :: (name ++
    ['>']) ++ after))
  have closed := splitAt?_first (by simpa using named) inside after
  exact elementText?_eq_some_iff.mpr ⟨before, _, text, after, firstAt_of_splitAt? opened,
    firstAt_of_splitAt? closed, rfl⟩

/-- A body has one text under a name. -/
theorem Element.unique {body name text text' : List Char} (h : Element body name text)
    (h' : Element body name text') : text = text' :=
  Option.some.inj ((elementText?_eq_some_iff.mpr h).symm.trans (elementText?_eq_some_iff.mpr h'))

end FileLease.Http
