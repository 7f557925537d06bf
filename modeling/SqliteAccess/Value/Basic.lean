import SqliteAccess.Number.Decimal

/-
  The values of a database and their storage classes.

  Key definitions include:
    * `StorageClass`
    * `Value`
    * `Value.storageClass`
    * `Value.display`
-/

namespace SqliteAccess

------------------------------------------------------------
-- Storage Classes
------------------------------------------------------------

/- The five classes of values. -/
inductive StorageClass where
  | null
  | integer
  | real
  | text
  | blob
  deriving DecidableEq

namespace StorageClass

/- The classes in the order of their numbers. -/
def all : List StorageClass :=
  [null, integer, real, text, blob]

/- The class with a given number. -/
def ofNumber? (n : Nat) : Option StorageClass :=
  all[n]?

/-
  The class that the engine means by a type code.  Every code
  it has no other meaning for stands for null.
-/
def ofTypeCode : Int → StorageClass
  | 1 => integer
  | 2 => real
  | 3 => text
  | 4 => blob
  | _ => null

/- The name of a class in SQL. -/
def name : StorageClass → String
  | null => "NULL"
  | integer => "INTEGER"
  | real => "REAL"
  | text => "TEXT"
  | blob => "BLOB"

end StorageClass

------------------------------------------------------------
-- Values
------------------------------------------------------------

/- A value of a database. -/
inductive Value where
  | null
  | integer (n : Int64)
  | real (x : Double)
  | text (t : Bytes)
  | blob (b : Bytes)
  deriving DecidableEq

namespace Value

/- The class that a value belongs to. -/
def storageClass : Value → StorageClass
  | null => .null
  | integer _ => .integer
  | real _ => .real
  | text _ => .text
  | blob _ => .blob

/-
  A value as messages show it: texts in quotes, blobs as
  hexadecimal digits, and reals with six decimal places.
-/
def display : Value → Bytes
  | null => Bytes.ascii "NULL"
  | integer n => Bytes.ofInt n.toInt
  | real x => x.toFixed 6
  | text t => Bytes.ascii "'" ++ t ++ Bytes.ascii "'"
  | blob b =>
      Bytes.ascii "x'" ++ Bytes.hex b ++ Bytes.ascii "'"

end Value

end SqliteAccess
