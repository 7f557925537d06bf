import SqliteAccess.Number.Rounding

/-
  Binary floating-point numbers as bit patterns.

  A number is a sign and a magnitude; the magnitude is a
  field of fraction bits below a field of exponent bits.  The
  finite magnitudes of a format are the numbers
  `mantissa * 2 ^ exponent`, and `BinaryFormat.encode` finds
  the one nearest to a given number of that form.

  Key definitions include:
    * `BinaryFormat`
    * `BinaryFormat.parts`
    * `BinaryFormat.encode`
    * `Double`
    * `Single`
    * `Single.widen`
    * `Double.narrow`
-/

namespace SqliteAccess

------------------------------------------------------------
-- Formats
------------------------------------------------------------

/-
  A binary format: its number of fraction bits and of
  exponent bits.
-/
structure BinaryFormat where
  fractionBits : Nat
  exponentBits : Nat
  deriving DecidableEq

namespace BinaryFormat

/- The format of 64 bits. -/
def double : BinaryFormat :=
  { fractionBits := 52, exponentBits := 11 }

/- The format of 32 bits. -/
def single : BinaryFormat :=
  { fractionBits := 23, exponentBits := 8 }

variable (f : BinaryFormat)

/- The weight of the lowest bit of the smallest magnitudes. -/
def leastExponent : Int :=
  2 - Nat.pow 2 (f.exponentBits - 1) - f.fractionBits

/- The magnitude of infinity; every greater one is no number. -/
def infinity : Nat :=
  (Nat.pow 2 f.exponentBits - 1) *
    Nat.pow 2 f.fractionBits

/- The magnitude of the value that stands for no number. -/
def notANumber : Nat :=
  f.infinity + Nat.pow 2 (f.fractionBits - 1)

/- The bit that holds the sign, as a number. -/
def signBit : Nat :=
  Nat.pow 2 (f.fractionBits + f.exponentBits)

/-
  The mantissa and the exponent of a finite magnitude.  The
  smallest exponent field stands for numbers without a
  leading one.
-/
def parts (magnitude : Nat) : Nat × Int :=
  let field := magnitude / Nat.pow 2 f.fractionBits
  let fraction := magnitude % Nat.pow 2 f.fractionBits
  if field = 0 then
    (fraction, f.leastExponent)
  else
    (Nat.pow 2 f.fractionBits + fraction,
      f.leastExponent + (field - 1 : Nat))

/-
  The magnitude nearest to `mantissa * 2 ^ exponent`; a tie
  goes to the even one.
-/
def encode
    (mantissa : Nat)
    (exponent : Int) : Nat :=
  if mantissa = 0 then 0 else
    let top : Int := mantissa.log2 + exponent
    let unit := max f.leastExponent (top - f.fractionBits)
    let shift := exponent - unit
    let units :=
      Rounding.nearest
        (mantissa * Nat.pow 2 shift.toNat)
        (Nat.pow 2 (-shift).toNat)
    (unit - f.leastExponent).toNat *
        Nat.pow 2 f.fractionBits
      + units

end BinaryFormat

------------------------------------------------------------
-- Numbers of 64 Bits
------------------------------------------------------------

/- A floating-point number of 64 bits. -/
structure Double where
  bits : UInt64
  deriving DecidableEq

namespace Double

/- Whether the sign bit is set. -/
def isNegative (x : Double) : Bool :=
  BinaryFormat.double.signBit ≤ x.bits.toNat

/- The bits below the sign. -/
def magnitude (x : Double) : Nat :=
  x.bits.toNat % BinaryFormat.double.signBit

/- Whether a number is neither infinite nor no number. -/
def isFinite (x : Double) : Bool :=
  x.magnitude < BinaryFormat.double.infinity

/- Whether the bits stand for no number. -/
def isNaN (x : Double) : Bool :=
  BinaryFormat.double.infinity < x.magnitude

/- The number with the given sign and magnitude. -/
def ofMagnitude
    (negative : Bool)
    (magnitude : Nat) : Double :=
  ⟨UInt64.ofNat
    ((if negative then BinaryFormat.double.signBit else 0)
      + magnitude)⟩

/- The value that stands for no number. -/
def nan : Double :=
  ofMagnitude false BinaryFormat.double.notANumber

/-
  The absolute value of a finite number as a fraction with a
  positive denominator.
-/
def fraction (x : Double) : Nat × Nat :=
  let (m, e) := BinaryFormat.double.parts x.magnitude
  (m * Nat.pow 2 e.toNat, Nat.pow 2 (-e).toNat)

end Double

------------------------------------------------------------
-- Numbers of 32 Bits
------------------------------------------------------------

/- A floating-point number of 32 bits. -/
structure Single where
  bits : UInt32
  deriving DecidableEq

namespace Single

/- Whether the sign bit is set. -/
def isNegative (x : Single) : Bool :=
  BinaryFormat.single.signBit ≤ x.bits.toNat

/- The bits below the sign. -/
def magnitude (x : Single) : Nat :=
  x.bits.toNat % BinaryFormat.single.signBit

/- The number with the given sign and magnitude. -/
def ofMagnitude
    (negative : Bool)
    (magnitude : Nat) : Single :=
  ⟨UInt32.ofNat
    ((if negative then BinaryFormat.single.signBit else 0)
      + magnitude)⟩

/- The value that stands for no number. -/
def nan : Single :=
  ofMagnitude false BinaryFormat.single.notANumber

/- The greatest finite magnitude, as a number of 64 bits. -/
def greatest : Double :=
  let (m, e) :=
    BinaryFormat.single.parts
      (BinaryFormat.single.infinity - 1)
  Double.ofMagnitude false (BinaryFormat.double.encode m e)

/- The same number with 64 bits; nothing is lost. -/
def widen (x : Single) : Double :=
  let f := BinaryFormat.single
  if f.infinity < x.magnitude then
    Double.nan
  else if x.magnitude = f.infinity then
    Double.ofMagnitude x.isNegative
      BinaryFormat.double.infinity
  else
    let (m, e) := f.parts x.magnitude
    Double.ofMagnitude x.isNegative
      (BinaryFormat.double.encode m e)

end Single

namespace Double

/-
  Whether a number of 32 bits can stand for this one: it is
  not finite, or not beyond the greatest of them.
-/
def fitsSingle (x : Double) : Bool :=
  ! x.isFinite || x.magnitude ≤ Single.greatest.magnitude

/- The nearest number of 32 bits, for a number that fits. -/
def narrow (x : Double) : Single :=
  let f := BinaryFormat.double
  if x.isNaN then
    Single.nan
  else if x.magnitude = f.infinity then
    Single.ofMagnitude x.isNegative
      BinaryFormat.single.infinity
  else
    let (m, e) := f.parts x.magnitude
    Single.ofMagnitude x.isNegative
      (BinaryFormat.single.encode m e)

end Double

end SqliteAccess
