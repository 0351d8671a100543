/-! # Reading a text piece by piece -/
namespace FileLease.Text

/-- What was read at the front of `s`, and the rest of `s`, which is shorter by `least` characters
at least. -/
structure Taken (least : Nat) (s : List Char) (α : Type) where
  value : α
  rest : List Char
  shorter : rest.length + least ≤ s.length

namespace Taken
variable {α β : Type} {c : Char} {s t : List Char} {m n : Nat}

def none (s : List Char) (value : α) : Taken 0 s α :=
  ⟨value, s, Nat.le_refl _⟩

def first (value : α) : Taken 1 (c :: s) α :=
  ⟨value, s, Nat.le_refl _⟩

def map (f : α → β) (a : Taken n s α) : Taken n s β :=
  ⟨f a.value, a.rest, a.shorter⟩

/-- The same piece after one more character. -/
def behind (a : Taken n s α) : Taken 1 (c :: s) α :=
  ⟨a.value, a.rest, Nat.succ_le_succ (Nat.le_trans (Nat.le_add_right _ _) a.shorter)⟩

/-- The same piece at the end of a longer one. -/
def on (a : Taken n t α) (h : t.length ≤ s.length) : Taken n s α :=
  ⟨a.value, a.rest, Nat.le_trans a.shorter h⟩

/-- A second piece, as one that begins with the first. -/
def followed (a : Taken m s α) (b : Taken n a.rest β) : Taken n s β :=
  b.on (Nat.le_trans (Nat.le_add_right _ _) a.shorter)

/-- A piece with a second one, whose value does not count. -/
def extended (a : Taken m s α) (b : Taken n a.rest β) : Taken m s α :=
  ⟨a.value, b.rest, Nat.le_trans
    (Nat.add_le_add_right (Nat.le_trans (Nat.le_add_right _ _) b.shorter) _) a.shorter⟩

/-- The same piece, its length being forgotten. -/
def loosen (a : Taken n s α) : Taken 0 s α :=
  ⟨a.value, a.rest, Nat.le_trans (Nat.le_add_right _ _) a.shorter⟩

/-- What follows a piece that is not empty is shorter than the text. -/
theorem rest_lt (a : Taken 1 s α) : a.rest.length < s.length :=
  a.shorter

theorem rest_le (a : Taken n s α) : a.rest.length ≤ s.length :=
  Nat.le_trans (Nat.le_add_right _ _) a.shorter

end Taken

/-- What follows the first character is shorter. -/
theorem tail_lt {c : Char} {rest s : List Char} (h : (c :: rest).length ≤ s.length) :
    rest.length < s.length :=
  h

/-- The characters at the front of `s` that satisfy `p`. -/
def takeRun (p : Char → Bool) (s : List Char) : Taken 0 s (List Char) :=
  ⟨s.takeWhile p, s.dropWhile p, (List.dropWhile_suffix p).length_le⟩

/-- A certain character. -/
def readMark? (mark : Char) (s : List Char) : Option (Taken 1 s Unit) :=
  match s with
  | [] => none
  | c :: _ => if c = mark then some (.first ()) else none

/-- The number of bytes that a text takes in UTF-8. -/
def byteLength (s : List Char) : Nat :=
  s.foldl (fun n c => n + c.utf8Size) 0

end FileLease.Text
