import SqliteAccess.Text.Bytes
import SqliteAccess.Number.Binary

/-
  Decimal texts of floating-point numbers.  Both forms round
  the exact value to nearest, a tie to the even digit.

  Key definitions include:
    * `Double.toFixed`
    * `Double.toSignificant`
-/

namespace SqliteAccess

namespace Double

------------------------------------------------------------
-- Fixed Places
------------------------------------------------------------

/- The minus sign of a negative number. -/
def signText (x : Double) : Bytes :=
  if x.isNegative then Bytes.ascii "-" else []

/-
  A number of units of `10 ^ -places`, written with a point
  before its last `places` digits.
-/
def pointed
    (places units : Nat) : Bytes :=
  let whole := Bytes.ofNat (units / Nat.pow 10 places)
  if places = 0 then whole else
    whole ++ Bytes.ascii "." ++
      Bytes.ofNatPadded places (units % Nat.pow 10 places)

/-
  A number with a fixed count of decimal places.  Infinities
  and the value for no number are words.
-/
def toFixed
    (places : Nat)
    (x : Double) : Bytes :=
  x.signText ++
    if x.isNaN then
      Bytes.ascii "nan"
    else if x.isFinite then
      let (n, d) := x.fraction
      pointed places (Rounding.nearestScaled n d places)
    else
      Bytes.ascii "inf"

------------------------------------------------------------
-- Significant Digits
------------------------------------------------------------

/-
  The leading digits of a positive fraction: a number of
  exactly `count` decimal digits and the exponent of ten of
  the first of them.
-/
def leadingDigits
    (count n d : Nat) : Nat × Int :=
  let k := Rounding.decimalExponent n d
  let digits := Rounding.nearestScaled n d (count - 1 - k)
  if digits < Nat.pow 10 count then
    (digits, k)
  else
    (Nat.pow 10 (count - 1), k + 1)

/- A text without the zeros at its end. -/
def withoutFinalZeros (t : Bytes) : Bytes :=
  (t.reverse.dropWhile (· == Bytes.byte '0')).reverse

/- Digits after a point; no point if there are none. -/
def afterPoint (t : Bytes) : Bytes :=
  if t.isEmpty then [] else Bytes.byte '.' :: t

/- The exponent of a number in scientific notation. -/
def exponentText (k : Int) : Bytes :=
  Bytes.ascii (if k < 0 then "e-" else "e+") ++
    Bytes.ofNatPadded 2 k.natAbs

/-
  A finite number with at most `count` significant digits.
  Zeros at the end of the fraction are left out.  Numbers
  below `10 ^ -4`, and those whose whole part has more than
  `count` digits, are written in scientific notation.
-/
def toSignificant
    (count : Nat)
    (x : Double) : Bytes :=
  let (n, d) := x.fraction
  x.signText ++
    if n = 0 then
      Bytes.ascii "0"
    else
      let (number, k) := leadingDigits count n d
      let digits := Bytes.ofNat number
      if k < -4 ∨ count ≤ k then
        digits.take 1 ++
          afterPoint (withoutFinalZeros (digits.drop 1)) ++
          exponentText k
      else if k < 0 then
        Bytes.ascii "0" ++
          afterPoint
            (List.replicate (-k - 1).toNat (Bytes.byte '0')
              ++ withoutFinalZeros digits)
      else
        digits.take (k.toNat + 1) ++
          afterPoint
            (withoutFinalZeros (digits.drop (k.toNat + 1)))

end Double

end SqliteAccess
