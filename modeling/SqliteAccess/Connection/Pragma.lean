import SqliteAccess.Connection.Execution
import SqliteAccess.Text.Identifier

/-
  Reading and setting pragmas.

  The name and the value of a pragma become part of SQL text,
  so only identifiers and plain numbers are accepted.

  Key definitions include:
    * `Pragma.literal`
    * `Connection.pragma`
    * `Connection.setPragma`
-/

namespace SqliteAccess

namespace Pragma

/- Refuse a name that is no identifier. -/
def requireName (name : Bytes) : Except Refusal Unit :=
  if Identifier.isQualified name then .ok ()
  else .error (.invalidPragmaName name)

/-
  How a value is written in SQL: integers and finite reals as
  numbers, and texts as they are if they are identifiers.
-/
def literal? : Value → Option Bytes
  | .integer n => some (Bytes.ofInt n.toInt)
  | .real x =>
      if x.isFinite then some (x.toSignificant 17) else none
  | .text t => if Identifier.isValid t then some t else none
  | .null => none
  | .blob _ => none

/- The literal of a value, if a pragma can be set to it. -/
def literal
    (name : Bytes)
    (v : Value) : Except Refusal Bytes :=
  match literal? v with
  | some t => .ok t
  | none => .error (.unsupportedPragmaValue v name)

end Pragma

namespace Connection

variable {E : Engine}

open Quiet Attempt

/-
  The value of a pragma: the first column of its first row,
  null if there is none.
-/
def pragma
    (c : ConnectionId)
    (name : Bytes) : Attempt E Value := do
  accept (Pragma.requireName name)
  Statement.within c (Bytes.ascii "PRAGMA " ++ name)
    fun p => do
      if (← Statement.step p) = .completed then
        return .null
      else if (← Statement.columnCount p) = 0 then
        return .null
      else
        Statement.columnValue p 0

/- Set a pragma; rows that it answers are skipped. -/
def setPragma
    (c : ConnectionId)
    (name : Bytes)
    (v : Value) : Attempt E Unit := do
  accept (Pragma.requireName name)
  let literal ← accept (Pragma.literal name v)
  Statement.within c
    (Bytes.ascii "PRAGMA " ++ name ++
      Bytes.ascii " = " ++ literal)
    fun p => do
      Statement.drain p (← lift (read (·.patience)))

end Connection

end SqliteAccess
