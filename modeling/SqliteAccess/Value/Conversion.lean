import SqliteAccess.Error.Refusal
import SqliteAccess.Text.Utf8
import SqliteAccess.Value.Host

/-
  Conversion between values and host types.

  No conversion crosses a storage class: only an integer is
  read as an integer type, and a text that spells a number is
  none.  Inside a class a number that the host type cannot
  hold is refused.

  Key definitions include:
    * `Value.ofInteger`
    * `Value.toInteger`
    * `Value.ofHost`
    * `Value.toHost`
    * `Argument.toValue`
    * `OptionalArgument.toValue`
-/

namespace SqliteAccess

namespace Value

------------------------------------------------------------
-- Integers and Texts
------------------------------------------------------------

/- The 64-bit integer of a number of an integer type. -/
def ofInteger
    (k : IntegerType)
    (n : k.Carrier) : Except Refusal Int64 :=
  if IntegerType.int64.Holds n.1 then
    .ok (Int64.ofInt n.1)
  else
    .error (.outOfRange (Bytes.ofInt n.1) "int64")

/- The number of an integer type that a 64-bit integer is. -/
def toInteger
    (k : IntegerType)
    (n : Int64) : Except Refusal k.Carrier :=
  if h : k.Holds n.toInt then
    .ok ⟨n.toInt, h⟩
  else
    .error (.outOfRange (Bytes.ofInt n.toInt) k.name)

/- The integer of a truth value. -/
def ofBool (b : Bool) : Int64 :=
  if b then 1 else 0

/- The truth value that an integer stands for. -/
def toBool (n : Int64) : Except Refusal Bool :=
  if n = 0 then .ok false
  else if n = 1 then .ok true
  else .error (.outOfRange (Bytes.ofInt n.toInt) "bool")

/- Refuse a text that is not UTF-8. -/
def requireUtf8 (t : Bytes) : Except Refusal Unit :=
  if Utf8.isValid t then .ok () else .error .invalidUtf8

/- The text value of a text. -/
def ofText (t : Bytes) : Except Refusal Value := do
  requireUtf8 t
  return .text t

------------------------------------------------------------
-- From Host Types
------------------------------------------------------------

/- The value of something of a host type. -/
def ofHost :
    (t : HostType) → t.Carrier → Except Refusal Value
  | .value, v => .ok v
  | .bool, b => .ok (.integer (ofBool b))
  | .integer k, n => return .integer (← ofInteger k n)
  | .single, x => .ok (.real x.widen)
  | .double, x => .ok (.real x)
  | .text, t => ofText t
  | .blob, b => .ok (.blob b)
  | .optional _, none => .ok .null
  | .optional t, some x => ofHost t x

------------------------------------------------------------
-- To Host Types
------------------------------------------------------------

/- Refuse to read a value as another class of thing. -/
def mismatch
    {α : Type}
    (v : Value)
    (requested : String) : Except Refusal α :=
  .error (.classMismatch v.storageClass requested)

/- Read a real as a number of 32 bits. -/
def toSingle (x : Double) : Except Refusal Single :=
  if x.fitsSingle then
    .ok x.narrow
  else
    .error (.outOfRange (x.toFixed 6) "float")

/- A value as something of a host type. -/
def toHost :
    (t : HostType) → Value → Except Refusal t.Carrier
  | .value, v => .ok v
  | .bool, .integer n => toBool n
  | .bool, v => mismatch v "bool"
  | .integer k, .integer n => toInteger k n
  | .integer k, v => mismatch v k.name
  | .single, .real x => toSingle x
  | .single, v => mismatch v "float"
  | .double, .real x => .ok x
  | .double, v => mismatch v "double"
  | .text, .text t => .ok t
  | .text, v => mismatch v "string"
  | .blob, .blob b => .ok b
  | .blob, v => mismatch v "blob"
  | .optional _, .null => .ok none
  | .optional t, v => return some (← toHost t v)

end Value

------------------------------------------------------------
-- Arguments
------------------------------------------------------------

namespace Argument

/-
  The value of an argument.  A view without data is the empty
  text.
-/
def toValue :
    (a : Argument) → a.IsConvertible →
      Except Refusal Value
  | null, _ => .ok .null
  | typed t x, _ => Value.ofHost t x
  | view data, _ => Value.ofText (data.getD [])
  | terminated (some t), _ =>
      Value.ofText (Bytes.untilNul t)

end Argument

/- The value of an optional, which is a null without a content. -/
def OptionalArgument.toValue :
    (x : OptionalArgument) → x.IsConvertible →
      Except Refusal Value
  | .plain a, h => a.toValue h
  | .empty, _ => .ok .null
  | .holding o, h => toValue o h

end SqliteAccess
