/-! # Blank characters and trimming -/
namespace FileLease.Text

/-- The characters with the Unicode property White_Space. -/
def isBlank (c : Char) : Bool :=
  let n := c.toNat
  (9 ≤ n && n ≤ 13) || n == 0x20 || n == 0x85 || n == 0xA0 || n == 0x1680 ||
    (0x2000 ≤ n && n ≤ 0x200A) || n == 0x2028 || n == 0x2029 || n == 0x202F || n == 0x205F ||
    n == 0x3000

/-- `s` without the characters at its end that satisfy `p`. -/
def stripEnd (p : Char → Bool) (s : List Char) : List Char :=
  (s.reverse.dropWhile p).reverse

/-- `s` without the characters at either end that satisfy `p`. -/
def strip (p : Char → Bool) (s : List Char) : List Char :=
  stripEnd p (s.dropWhile p)

section
variable {p : Char → Bool} {s : List Char} {c : Char}

theorem head?_dropWhile (h : (s.dropWhile p).head? = some c) : p c = false := by
  have first := List.head?_dropWhile_not p s
  rwa [h] at first

theorem dropWhile_eq_self (h : ∀ c, s.head? = some c → p c = false) : s.dropWhile p = s := by
  cases s with
  | nil => rfl
  | cons c s => exact List.dropWhile_cons_of_neg (by simp [h c rfl])

theorem stripEnd_prefix (p : Char → Bool) (s : List Char) : stripEnd p s <+: s := by
  have suffix := List.reverse_prefix.mpr (List.dropWhile_suffix (l := s.reverse) p)
  rwa [List.reverse_reverse] at suffix

theorem head?_strip (h : (strip p s).head? = some c) : p c = false := by
  obtain ⟨rest, whole⟩ := stripEnd_prefix p (s.dropWhile p)
  have first : (stripEnd p (s.dropWhile p)).head? = some c := h
  refine head?_dropWhile (s := s) ?_
  rw [← whole, List.head?_append, first]
  rfl

theorem getLast?_strip (h : (strip p s).getLast? = some c) : p c = false := by
  rw [strip, stripEnd, List.getLast?_reverse] at h
  exact head?_dropWhile h

/-- A text with other characters at its ends is left as it is. -/
theorem strip_eq_self (front : ∀ c, s.head? = some c → p c = false)
    (last : ∀ c, s.getLast? = some c → p c = false) : strip p s = s := by
  have back : ∀ c, s.reverse.head? = some c → p c = false := by simpa using last
  rw [strip, dropWhile_eq_self front, stripEnd, dropWhile_eq_self back, List.reverse_reverse]

theorem strip_of_forall (h : ∀ c ∈ s, p c = false) : strip p s = s :=
  strip_eq_self (fun c hc => h c (List.mem_of_mem_head? hc))
    fun c hc => h c (List.mem_of_mem_getLast? hc)

end

def trimStart (s : List Char) : List Char :=
  s.dropWhile isBlank

def trim (s : String) : String :=
  String.ofList (strip isBlank s.toList)

def isBlankText (s : String) : Bool :=
  s.toList.all isBlank

end FileLease.Text
