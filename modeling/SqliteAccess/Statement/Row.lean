import SqliteAccess.Statement.Columns

/-
  Reading rows.

  A row can be read as long as its statement exists and has
  not moved on.

  Key definitions include:
    * `Row.current`
    * `Row.isCurrent`
    * `Row.value`
    * `Row.values`
-/

namespace SqliteAccess

namespace Row

variable {E : Engine}

open Quiet Attempt

------------------------------------------------------------
-- Currency
------------------------------------------------------------

/- Whether a row can still be read. -/
def isCurrent (r : Row) : Quiet E Bool :=
  read (·.isCurrent r)

/- The place of the statement that stands on a row. -/
def current (r : Row) : Attempt E Place := do
  match ← lift (read (·.placeOf r)) with
  | none => refuse .rowWithoutStatement
  | some p =>
      let s ← lift (Statement.lookup p)
      require (r.matches s) (.staleRow s.sql)
      return p

------------------------------------------------------------
-- Reads
------------------------------------------------------------

/- The number of columns. -/
def size (r : Row) : Attempt E Nat := do
  Statement.columnCount (← current r)

/- The value of a column. -/
def value
    (r : Row)
    (index : Int) : Attempt E Value := do
  Statement.columnValue (← current r) index

/- Whether a column is null. -/
def isNull
    (r : Row)
    (index : Int) : Attempt E Bool := do
  Statement.columnIsNull (← current r) index

/- The name of a column. -/
def columnName
    (r : Row)
    (index : Int) : Attempt E Bytes := do
  Statement.columnName (← current r) index

/- The value of a column as something of a host type. -/
def getAs
    (r : Row)
    (t : HostType)
    (index : Int) : Attempt E t.Carrier := do
  Statement.columnAs (← current r) t index

/- The values of all columns, in order. -/
def values (r : Row) : Attempt E (List Value) := do
  let p ← current r
  let count ← Statement.columnCount p
  let st ← Statement.requireHandle p "columnCount"
  Statement.readColumns p st 0 count

end Row

end SqliteAccess
