import FileLease.Failure.Rejection
import Mathlib.Logic.Function.Basic

/-!
# Codes that are printed and read again

Every text but the empty one is read as a code that prints it. The empty text is no code, and this
prints as a word that is read as a code of its own.
-/
namespace FileLease.ErrorCode

/-- A code prints the text that it was read from, if there was one. -/
theorem text_ofText (s : String) : (ofText s).text = if s = "" then "Unknown" else s := by
  unfold ofText
  split
  case h_12 named _ _ _ _ _ _ _ _ _ _ nonempty => rw [if_neg nonempty, text]
  all_goals rfl

theorem text_ofText_of_ne {s : String} (h : s ≠ "") : (ofText s).text = s := by
  rw [text_ofText, if_neg h]

theorem ofText_empty : ofText "" = .unknown := rfl

/-- The word for no code is not among the codes. -/
theorem ofText_unknown : ofText "Unknown" = .other "Unknown" := rfl

theorem ofText_eq_unknown_iff {s : String} : ofText s = .unknown ↔ s = "" := by
  refine ⟨fun none => ?_, fun empty => by rw [empty, ofText_empty]⟩
  by_contra nonempty
  -- a code that is read from a text prints it, so the text would be the word for no code
  have word : "Unknown" = s := by rw [← text_ofText_of_ne nonempty, none, text]
  rw [← word, ofText_unknown] at none
  cases none

/-- Different texts are read as different codes. -/
theorem ofText_injective : Function.Injective ofText := by
  intro s t same
  by_cases hs : s = ""
  · rw [hs, ofText_empty] at same
    rw [hs, ofText_eq_unknown_iff.mp same.symm]
  · have ht : t ≠ "" := fun ht => hs (ofText_eq_unknown_iff.mp (by rw [same, ht, ofText_empty]))
    rw [← text_ofText_of_ne hs, same, text_ofText_of_ne ht]

/-- Two texts give codes that print the same if they are the same, or the one is empty and the other
the word for no code. -/
theorem text_ofText_eq_iff {s t : String} : (ofText s).text = (ofText t).text ↔
    s = t ∨ (s = "" ∧ t = "Unknown") ∨ (s = "Unknown" ∧ t = "") := by
  rw [text_ofText, text_ofText]
  by_cases hs : s = "" <;> by_cases ht : t = ""
  · simp only [hs, ht, true_or]
  · simp only [hs, ht, Ne.symm ht, if_true, if_false, true_and, and_false, false_or, or_false]
    exact eq_comm
  · simp only [hs, ht, if_true, if_false, and_true, false_and, false_or]
  · simp only [hs, ht, if_false, false_and, and_false, or_false]

/-- Whatever a code prints, what is read from that means the same for the caller. -/
theorem kind_reread (s : String) (status : Nat) (message : String) :
    Rejection.kind ⟨status, ofText (ofText s).text, message⟩ =
      Rejection.kind ⟨status, ofText s, message⟩ := by
  by_cases hs : s = ""
  · rw [hs]
    rfl
  · rw [text_ofText_of_ne hs]

/-- What a code prints is read as the code again exactly if the code was read from a text that is
not empty; the kind of a refusal does not change in any case. Codes that print the same are the
same, unless one is read from the empty text and the other from the word that stands for it. -/
theorem reread_iff (s t : String) :
    (ofText (ofText s).text = ofText s ↔ s ≠ "") ∧
      (∀ status message, Rejection.kind ⟨status, ofText (ofText s).text, message⟩ =
        Rejection.kind ⟨status, ofText s, message⟩) ∧
      (((ofText s).text = (ofText t).text ↔ ofText s = ofText t) ↔
        ¬ ((s = "" ∧ t = "Unknown") ∨ (s = "Unknown" ∧ t = ""))) := by
  refine ⟨?_, kind_reread s, ?_⟩
  · rw [ofText_injective.eq_iff, text_ofText]
    by_cases hs : s = "" <;> simp [hs]
  · rw [text_ofText_eq_iff, ofText_injective.eq_iff]
    constructor
    · rintro same (⟨rfl, rfl⟩ | ⟨rfl, rfl⟩) <;> simp at same
    · intro apart
      rw [or_iff_left apart]

/-- The code of a refusal without one prints a word that is read as another code. -/
theorem reread_empty :
    ofText (ofText "").text ≠ ofText "" ∧
      (ofText "").text = (ofText "Unknown").text ∧ ofText "" ≠ ofText "Unknown" := by
  decide

end FileLease.ErrorCode
