/-
  Rounding of exact quotients and the sizes of numbers in
  decimal digits.

  Key definitions include:
    * `Rounding.nearest`
    * `Rounding.decimalLength`
    * `Rounding.decimalExponent`
-/

namespace SqliteAccess

namespace Rounding

/-
  The integer nearest to `n / d`; a tie goes to the even one.
-/
def nearest (n d : Nat) : Nat :=
  let q := n / d
  let twice := 2 * (n % d)
  if twice < d then q
  else if d < twice then q + 1
  else q + q % 2

/- The number of decimal digits of a natural number. -/
def decimalLength (n : Nat) : Nat :=
  (Nat.toDigits 10 n).length

/-
  The greatest `k` with `10 ^ k ≤ n / d`, for positive `n`
  and `d`.
-/
def decimalExponent (n d : Nat) : Int :=
  if d ≤ n then
    decimalLength (n / d) - 1
  else
    -(decimalLength ((d - 1) / n) : Int)

/- The nearest integer to `n / d * 10 ^ k`. -/
def nearestScaled
    (n d : Nat)
    (k : Int) : Nat :=
  nearest
    (n * Nat.pow 10 k.toNat)
    (d * Nat.pow 10 (-k).toNat)

end Rounding

end SqliteAccess
