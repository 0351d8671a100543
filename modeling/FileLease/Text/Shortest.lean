import FileLease.Text.Numeral

/-! # The shortest decimal that reads back as a binary float -/
namespace FileLease.Text

/-- A positive float as a fraction, with the interval of the numbers that round to it: `low`,
`value` and `high` over the common denominator `unit`. The ends belong to the interval if
`closed`. -/
structure Rounding where
  low : Nat
  value : Nat
  high : Nat
  unit : Nat
  closed : Bool

namespace Rounding

/-- The interval around `mantissa * 2 ^ exponent`. Below a power of two the floats lie twice as
close, except below the smallest normal one. -/
def of (mantissa : Nat) (exponent : Int) (power : Bool) : Rounding :=
  let scale := Nat.pow 2 (exponent - 2).toNat
  ⟨(4 * mantissa - (if power then 1 else 2)) * scale, 4 * mantissa * scale,
    (4 * mantissa + 2) * scale, Nat.pow 2 (2 - exponent).toNat, mantissa % 2 == 0⟩

/-- The greatest `n` with `10 ^ n` at most the value. -/
def magnitude (r : Rounding) : Int :=
  if r.unit ≤ r.value then (decimal (r.value / r.unit)).length - 1
  else
    let length := (decimal (r.unit / r.value)).length
    if r.value * Nat.pow 10 (length - 1) < r.unit then -length else 1 - length

/-- `n * 10 ^ exponent` in the denominator of the interval, times a common factor. -/
def compared (r : Rounding) (n : Nat) (exponent : Int) : Nat × Nat :=
  (n * Nat.pow 10 exponent.toNat * r.unit, Nat.pow 10 (-exponent).toNat)

def contains (r : Rounding) (n : Nat) (exponent : Int) : Bool :=
  let (scaled, factor) := r.compared n exponent
  if r.closed then r.low * factor ≤ scaled && scaled ≤ r.high * factor
  else r.low * factor < scaled && scaled < r.high * factor

/-- The decimal of `length` digits nearest to the value among those that round to it. -/
def nearest? (r : Rounding) (length : Nat) : Option (Nat × Int) :=
  let exponent := r.magnitude - length + 1
  let (one, factor) := r.compared 1 exponent
  let below := r.value * factor / one
  match r.contains below exponent, r.contains (below + 1) exponent with
  | false, false => none
  | true, false => some (below, exponent)
  | false, true => some (below + 1, exponent)
  | true, true =>
    some (if 2 * r.value * factor ≤ (2 * below + 1) * one then below else below + 1, exponent)

/-- The decimal with the fewest digits that rounds to the value; seventeen always do. Rounding up
can give a power of ten. -/
def shortest (r : Rounding) : Nat × Int :=
  let (n, exponent) := ((List.range 17).findSome? fun n => r.nearest? (n + 1)).getD (0, 0)
  if 0 < n ∧ n % 10 = 0 then (n / 10, exponent + 1) else (n, exponent)

end Rounding

/-- The text of `n * 10 ^ exponent`: with a point and without an exponent if the value has at most
sixteen digits before the point and at most four zeros after it, else with an exponent of ten. -/
def layout (n : Nat) (exponent : Int) : List Char :=
  let digits := decimal n
  let point : Int := digits.length + exponent
  if 0 ≤ exponent ∧ point ≤ 16 then digits ++ List.replicate exponent.toNat '0' ++ ['.', '0']
  else if 0 < point ∧ point ≤ 16 then digits.take point.toNat ++ '.' :: digits.drop point.toNat
  else if -5 < point ∧ point ≤ 0 then '0' :: '.' :: List.replicate (-point).toNat '0' ++ digits
  else digits.take 1 ++ (if digits.length = 1 then [] else '.' :: digits.drop 1) ++
    'e' :: signed (point - 1)

/-- How many mantissas a float can have, apart from its leading digit. -/
def mantissaSize : Nat := 0x10000000000000

/-- How many exponents a float can have. -/
def exponentSize : Nat := 2048

/-- The shortest text of a finite float, with a point or an exponent. -/
def float (x : Float) : String :=
  let bits := x.toBits.toNat
  let mantissa : Nat := bits % mantissaSize
  let exponent : Nat := bits / mantissaSize % exponentSize
  let digits : Nat × Int :=
    if exponent = 0 then
      if mantissa = 0 then (0, 0) else (Rounding.of mantissa (-1074) false).shortest
    else
      let power := mantissa == 0 && exponent != 1
      (Rounding.of (mantissa + mantissaSize) (exponent - 1075) power).shortest
  let text := layout digits.1 digits.2
  String.ofList (if bits / (mantissaSize * exponentSize) = 1 then '-' :: text else text)

end FileLease.Text
