import SqliteAccess.Statement.Lifecycle
import SqliteAccess.Value.Conversion

/-
  Reading columns, which are counted from zero, and what a
  statement tells about itself.

  Key definitions include:
    * `Statement.readColumn`
    * `Statement.columnValue`
    * `Statement.columnAs`
    * `Statement.columnType`
    * `Statement.columnIsNull`
    * `Statement.columnCount`
    * `Statement.columnName`
    * `Statement.parameterName`
    * `Statement.expandedSql`
    * `Statement.owner`
-/

namespace SqliteAccess

namespace Statement

variable {E : Engine}

open Quiet Attempt

------------------------------------------------------------
-- Checks
------------------------------------------------------------

/- Refuse to read where there is no row. -/
def requireRow
    (p : Place)
    (operation : String) : Attempt E StatementHandle := do
  let st ← requireHandle p operation
  let s ← lift (lookup p)
  require (s.state = .row)
    (.noRow operation s.state.name s.sql)
  return st

/- Refuse an index that no column has. -/
def requireColumn
    (p : Place)
    (index : Int) : Attempt E Unit := do
  let s ← lift (lookup p)
  let count := s.columnNames.length
  require (0 ≤ index && index < (count : Int))
    (.columnIndex index count s.sql)

------------------------------------------------------------
-- Values
------------------------------------------------------------

/-
  Read a text.  A missing text is empty, unless there was no
  memory for it.
-/
def readText
    (p : Place)
    (st : StatementHandle)
    (index : Int) : Attempt E Value := do
  let text : Option Bytes ←
    lift (invoke (.columnText st index))
  match text with
  | some t =>
      require (Utf8.isValid t) (.columnUtf8 index)
      return .text t
  | none =>
      let code : ResultCode ←
        lift (invoke (.errorCode st.database))
      let s ← lift (lookup p)
      require (code ≠ ResultCode.outOfMemory)
        (.columnMemory index s.sql)
      return .text []

/- Read a column as what the engine says it is. -/
def readColumn
    (p : Place)
    (st : StatementHandle)
    (index : Int) : Attempt E Value := do
  let type : Int ← lift (invoke (.columnType st index))
  match type with
  | 1 =>
      let n : Int64 ← lift (invoke (.columnInteger st index))
      return .integer n
  | 2 =>
      let x : Double ← lift (invoke (.columnReal st index))
      return .real x
  | 3 => readText p st index
  | 4 =>
      let blob : Option Bytes ←
        lift (invoke (.columnBlob st index))
      return .blob (blob.getD [])
  | _ => return .null

/- Read consecutive columns. -/
def readColumns
    (p : Place)
    (st : StatementHandle)
    (first : Nat) : Nat → Attempt E (List Value)
  | 0 => return []
  | n + 1 => do
      let v ← readColumn p st first
      let rest ← readColumns p st (first + 1) n
      return v :: rest

/- The value of a column. -/
def columnValue
    (p : Place)
    (index : Int) : Attempt E Value := do
  let st ← requireRow p "column read"
  requireColumn p index
  readColumn p st index

/- The value of a column as something of a host type. -/
def columnAs
    (p : Place)
    (t : HostType)
    (index : Int) : Attempt E t.Carrier := do
  accept (Value.toHost t (← columnValue p index))

/- The storage class of a column. -/
def columnType
    (p : Place)
    (index : Int) : Attempt E StorageClass := do
  let st ← requireRow p "columnType"
  requireColumn p index
  let type : Int ← lift (invoke (.columnType st index))
  return .ofTypeCode type

/- Whether a column is null. -/
def columnIsNull
    (p : Place)
    (index : Int) : Attempt E Bool := do
  return (← columnType p index) = .null

------------------------------------------------------------
-- Metadata
------------------------------------------------------------

/- The number of columns. -/
def columnCount (p : Place) : Attempt E Nat := do
  let _ ← requireHandle p "columnCount"
  return (← lift (lookup p)).columnNames.length

/- The name of a column. -/
def columnName
    (p : Place)
    (index : Int) : Attempt E Bytes := do
  let _ ← requireHandle p "columnName"
  requireColumn p index
  let s ← lift (lookup p)
  return s.columnNames.getD index.toNat []

/- The declared type of a column, empty for expressions. -/
def columnDeclaration
    (p : Place)
    (index : Int) : Attempt E Bytes := do
  let _ ← requireHandle p "columnDeclType"
  requireColumn p index
  let s ← lift (lookup p)
  return s.columnTypes.getD index.toNat []

/- The number of parameters. -/
def countParameters (p : Place) : Attempt E Nat := do
  let _ ← requireHandle p "parameterCount"
  return (← lift (lookup p)).parameterCount

/- The name of a parameter, empty if it has none. -/
def parameterName
    (p : Place)
    (index : Int) : Attempt E Bytes := do
  let st ← requireHandle p "parameterName"
  let s ← lift (lookup p)
  require
    (1 ≤ index && index ≤ (s.parameterCount : Int))
    (.parameterIndex index s.parameterCount s.sql)
  let name : Option Bytes ←
    lift (invoke (.parameterName st index))
  return name.getD []

/- Whether a statement makes no direct changes. -/
def isReadOnly (p : Place) : Attempt E Bool := do
  let st ← requireHandle p "isReadOnly"
  lift (invoke (.readOnlyStatement st))

/- The text of a statement with the bound values in it. -/
def expandedSql (p : Place) : Attempt E Bytes := do
  let st ← requireHandle p "expandedSql"
  let text : Option Bytes ←
    lift (invoke (.expandedText st))
  match text with
  | some t => return t
  | none => refuse (.expandedSql (← lift (lookup p)).sql)

/- The connection that a statement was prepared on. -/
def owner (p : Place) : Attempt E (Option ConnectionId) := do
  let _ ← requireHandle p "connection"
  return (← lift (lookup p)).connection

end Statement

end SqliteAccess
