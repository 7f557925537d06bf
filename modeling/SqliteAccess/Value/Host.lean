import SqliteAccess.Value.Basic

/-
  The types that callers hold values in.

  Key definitions include:
    * `IntegerType`
    * `HostType`
    * `HostType.Carrier`
    * `Argument`
    * `Argument.IsConvertible`
    * `OptionalArgument`
    * `OptionalArgument.IsConvertible`
-/

namespace SqliteAccess

------------------------------------------------------------
-- Integer Types
------------------------------------------------------------

/- The integer types of 8, 16, 32 and 64 bits. -/
inductive IntegerType where
  | int8
  | int16
  | int32
  | int64
  | uint8
  | uint16
  | uint32
  | uint64
  deriving DecidableEq

namespace IntegerType

/- The name of a type. -/
def name : IntegerType → String
  | int8 => "int8"
  | int16 => "int16"
  | int32 => "int32"
  | int64 => "int64"
  | uint8 => "uint8"
  | uint16 => "uint16"
  | uint32 => "uint32"
  | uint64 => "uint64"

/- The least number of a type. -/
def least : IntegerType → Int
  | int8 => -128
  | int16 => -32768
  | int32 => -2147483648
  | int64 => -9223372036854775808
  | uint8 => 0
  | uint16 => 0
  | uint32 => 0
  | uint64 => 0

/- The greatest number of a type. -/
def greatest : IntegerType → Int
  | int8 => 127
  | int16 => 32767
  | int32 => 2147483647
  | int64 => 9223372036854775807
  | uint8 => 255
  | uint16 => 65535
  | uint32 => 4294967295
  | uint64 => 18446744073709551615

/- Whether a number belongs to a type. -/
def Holds
    (k : IntegerType)
    (n : Int) : Prop :=
  k.least ≤ n ∧ n ≤ k.greatest

instance
    (k : IntegerType)
    (n : Int) :
    Decidable (k.Holds n) := by
  unfold Holds
  infer_instance

/- The numbers of a type. -/
abbrev Carrier (k : IntegerType) :=
  { n : Int // k.Holds n }

end IntegerType

------------------------------------------------------------
-- Host Types
------------------------------------------------------------

/- A type that a caller reads a value as. -/
inductive HostType where
  | value
  | bool
  | integer (k : IntegerType)
  | single
  | double
  | text
  | blob
  | optional (t : HostType)
  deriving DecidableEq

namespace HostType

/- What the values of a host type are. -/
@[reducible]
def Carrier : HostType → Type
  | value => Value
  | bool => Bool
  | integer k => k.Carrier
  | single => Single
  | double => Double
  | text => Bytes
  | blob => Bytes
  | optional t => Option t.Carrier

/- Things of one host type can be told apart. -/
def decEq : (t : HostType) → DecidableEq t.Carrier
  | value => inferInstance
  | bool => inferInstance
  | integer _ => inferInstance
  | single => inferInstance
  | double => inferInstance
  | text => inferInstance
  | blob => inferInstance
  | optional t =>
      have := decEq t
      inferInstanceAs (DecidableEq (Option t.Carrier))

instance (t : HostType) : DecidableEq t.Carrier :=
  t.decEq

end HostType

------------------------------------------------------------
-- Arguments
------------------------------------------------------------

/-
  What a caller can pass for a parameter: a null, a value of
  a host type, a view of a text, whose data may be missing,
  or a NUL-terminated text, which may be missing as a whole.
-/
inductive Argument where
  | null
  | typed (t : HostType) (x : t.Carrier)
  | view (data : Option Bytes)
  | terminated (data : Option Bytes)
  deriving DecidableEq

/-
  Whether an argument can be converted to a value.  A missing
  NUL-terminated text cannot, since there is nothing to read
  up to its end.
-/
def Argument.IsConvertible : Argument → Prop
  | terminated none => False
  | _ => True

instance : DecidablePred Argument.IsConvertible
  | .null => .isTrue trivial
  | .typed _ _ => .isTrue trivial
  | .view _ => .isTrue trivial
  | .terminated (some _) => .isTrue trivial
  | .terminated none => .isFalse id

/-
  What a caller can pass in an optional: an argument, an
  optional without anything, or one that holds what could be
  passed by itself.  Unlike a host type, an optional may hold
  a null or a view.
-/
inductive OptionalArgument where
  | plain (a : Argument)
  | empty
  | holding (o : OptionalArgument)
  deriving DecidableEq

/- Whether what an optional holds, if anything, converts. -/
def OptionalArgument.IsConvertible :
    OptionalArgument → Prop
  | plain a => a.IsConvertible
  | empty => True
  | holding o => o.IsConvertible

end SqliteAccess
