import SqliteAccess.Error.Kind
import SqliteAccess.ResultCode

/-
  Errors of database work and the failures that end a call.

  Key definitions include:
    * `DatabaseError`
    * `DatabaseError.ofKind`
    * `DatabaseError.report`
    * `Failure`
-/

namespace SqliteAccess

------------------------------------------------------------
-- Database Errors
------------------------------------------------------------

/-
  An error of database work: its kind, its message, the
  result code behind it (0 if a rule of this library was
  broken), the SQL text involved (empty if none) and the byte
  at which the engine stopped reading that text.
-/
structure DatabaseError where
  kind : ErrorKind
  message : Bytes
  code : ResultCode
  sql : Bytes
  offset : Option Int
  deriving DecidableEq

namespace DatabaseError

/-
  The error of a kind.  Its message starts with the label of
  the kind; the SQL text and the offset are dropped by the
  kinds that do not carry them.
-/
def ofKind
    (kind : ErrorKind)
    (message : Bytes)
    (code : ResultCode)
    (sql : Bytes)
    (offset : Option Int) : DatabaseError :=
  { kind
    message := Bytes.ascii kind.label ++ message
    code
    sql := if kind.carriesSql then sql else []
    offset := if kind.carriesOffset then offset else none }

/- The low eight bits of the code of an error. -/
def primaryCode (e : DatabaseError) : ResultCode :=
  ResultCode.primary e.code

/- How a report mentions a code; the code 0 is left out. -/
def codeText (code : ResultCode) : Bytes :=
  let primary := ResultCode.primary code
  if code = ResultCode.ok then [] else
    Bytes.ascii " (SQLite error code: " ++
      Bytes.ofInt primary ++
      (if primary = code then [] else
        Bytes.ascii ", extended: " ++ Bytes.ofInt code) ++
      Bytes.ascii ")"

/-
  The full report of an error: its message, its code and, on
  a line of its own, its SQL text.
-/
def report (e : DatabaseError) : Bytes :=
  e.message ++ codeText e.code ++
    if e.sql.isEmpty then [] else
      Bytes.ascii "\nSQL: " ++ e.sql

end DatabaseError

------------------------------------------------------------
-- Failures
------------------------------------------------------------

/-
  How a call can end without a result: by an error of
  database work, by a failure that a caller's function
  raised, by naming an object that does not exist, or by
  giving up a loop that an engine keeps going.
-/
inductive Failure where
  | database (error : DatabaseError)
  | foreign (message : Bytes)
  | noObject
  | endless
  deriving DecidableEq

end SqliteAccess
