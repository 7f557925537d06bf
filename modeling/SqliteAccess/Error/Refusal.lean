import SqliteAccess.Error.Basic
import SqliteAccess.Value.Basic

/-
  The refusals of this library: what it objects to without
  asking the engine, and the wording of each objection.

  Key definitions include:
    * `Refusal`
    * `Refusal.error`
-/

namespace SqliteAccess

/-
  A reason to refuse a call.  The first group is about
  values, the others about connections, statements and rows,
  transactions and savepoints, and backups.
-/
inductive Refusal where
  | invalidUtf8
  | classMismatch
      (actual : StorageClass)
      (requested : String)
  | outOfRange (value : Bytes) (requested : String)
  | conflictingFlags
  | createWithoutWriting
  | nulInPath
  | connectionClosed (operation : String)
  | liveChildren (statements backups : Nat)
  | invalidPragmaName (name : Bytes)
  | unsupportedPragmaValue (value : Value) (name : Bytes)
  | negativeTimeout (milliseconds : Int)
  | moreSql (offset : Nat) (sql : Bytes)
  | missingConnection
  | noStatement (sql : Bytes)
  | longText
  | statementFinalized (operation : String) (sql : Bytes)
  | activeRow (operation : String) (sql : Bytes)
  | noRow
      (operation : String)
      (state : String)
      (sql : Bytes)
  | parameterIndex
      (index : Int)
      (count : Nat)
      (sql : Bytes)
  | parameterName (name sql : Bytes)
  | columnIndex
      (index : Int)
      (count : Nat)
      (sql : Bytes)
  | columnMemory (index : Int) (sql : Bytes)
  | columnUtf8 (index : Int)
  | expandedSql (sql : Bytes)
  | rowWithoutStatement
  | staleRow (sql : Bytes)
  | connectionDestroyed
  | transactionEnded
  | savepointOutside
  | savepointName (name : Bytes)
  | savepointEnded (name : Bytes)
  | sameConnection
  | backupFinished
  deriving DecidableEq

namespace Refusal

------------------------------------------------------------
-- Kinds of Refusal
------------------------------------------------------------

/- A broken rule of use. -/
def usage
    (message : Bytes)
    (sql : Bytes := []) : DatabaseError :=
  .ofKind .usage message ResultCode.ok sql none

/- A value that cannot be converted. -/
def conversion (message : Bytes) : DatabaseError :=
  .ofKind .conversion message ResultCode.ok [] none

/- A parameter that does not exist. -/
def binding (message sql : Bytes) : DatabaseError :=
  .ofKind .binding message ResultCode.range sql none

/- A text that the engine could not take as a whole. -/
def oversized (message : Bytes) : DatabaseError :=
  .ofKind .usage message ResultCode.tooBig [] none

/- A database that must not be opened this way. -/
def opening (message : Bytes) : DatabaseError :=
  .ofKind .opening message ResultCode.misuse [] none

/- A want of memory. -/
def memory (message sql : Bytes) : DatabaseError :=
  .ofKind .engine message ResultCode.outOfMemory sql none

------------------------------------------------------------
-- Wording
------------------------------------------------------------

open Bytes in
/- The error that a refusal is reported by. -/
def error : Refusal → DatabaseError
  | invalidUtf8 =>
      conversion (ascii "text is not valid UTF-8")
  | classMismatch actual requested =>
      conversion
        (ascii "cannot read " ++ ascii actual.name ++
          ascii " value as " ++ ascii requested)
  | outOfRange value requested =>
      conversion
        (ascii "value " ++ value ++
          ascii " does not fit in " ++ ascii requested)
  | conflictingFlags =>
      opening
        (ascii "exactly one of ReadOnly and " ++
          ascii "ReadWrite must be set")
  | createWithoutWriting =>
      opening (ascii "Create requires ReadWrite")
  | nulInPath =>
      opening
        (ascii "database path contains an embedded " ++
          ascii "NUL byte")
  | connectionClosed operation =>
      usage
        (ascii operation ++ ascii ": connection is closed")
  | liveChildren statements backups =>
      .ofKind .busy
        (ascii "cannot close connection with " ++
          ofNat statements ++
          ascii " live statement(s) and " ++
          ofNat backups ++ ascii " live backup(s)")
        ResultCode.busy [] none
  | invalidPragmaName name =>
      usage
        (ascii "invalid pragma name '" ++ name ++ ascii "'")
  | unsupportedPragmaValue value name =>
      usage
        (ascii "unsupported value " ++ value.display ++
          ascii " for pragma '" ++ name ++ ascii "'")
  | negativeTimeout milliseconds =>
      usage
        (ascii "busy timeout must not be negative: " ++
          ofInt milliseconds)
  | moreSql offset sql =>
      usage
        (ascii "execute() runs a single statement but " ++
          ascii "more SQL follows at offset " ++
          ofNat offset ++ ascii "; use executeBatch()")
        sql
  | missingConnection =>
      usage
        (ascii "SerializedConnection needs a connection")
  | noStatement sql =>
      usage (ascii "SQL text contains no statement") sql
  | longText =>
      oversized (ascii "SQL text is too long")
  | statementFinalized operation sql =>
      usage
        (ascii operation ++
          ascii ": statement is finalized")
        sql
  | activeRow operation sql =>
      usage
        (ascii operation ++
          ascii ": statement has an active row; " ++
          ascii "call reset() first")
        sql
  | noRow operation state sql =>
      usage
        (ascii operation ++
          ascii ": no current row (statement is " ++
          ascii state ++ ascii ")")
        sql
  | parameterIndex index count sql =>
      binding
        (ascii "parameter index " ++ ofInt index ++
          ascii " out of range [1, " ++ ofNat count ++
          ascii "]")
        sql
  | parameterName name sql =>
      binding
        (ascii "no parameter named '" ++ name ++ ascii "'")
        sql
  | columnIndex index count sql =>
      usage
        (ascii "column index " ++ ofInt index ++
          ascii " out of range [0, " ++ ofNat count ++
          ascii ")")
        sql
  | columnMemory index sql =>
      memory
        (ascii "out of memory reading column " ++
          ofInt index)
        sql
  | columnUtf8 index =>
      conversion
        (ascii "column " ++ ofInt index ++
          ascii " holds TEXT that is not valid UTF-8")
  | expandedSql sql =>
      memory (ascii "sqlite3_expanded_sql failed") sql
  | rowWithoutStatement =>
      usage (ascii "row outlived its statement")
  | staleRow sql =>
      usage
        (ascii "row is no longer current; its " ++
          ascii "statement has moved on")
        sql
  | connectionDestroyed =>
      usage (ascii "connection was destroyed")
  | transactionEnded =>
      usage (ascii "transaction already ended")
  | savepointOutside =>
      usage
        (ascii "cannot create savepoint: " ++
          ascii "transaction not active")
  | savepointName name =>
      usage
        (ascii "savepoint name must be an identifier: '" ++
          name ++ ascii "'")
  | savepointEnded name =>
      usage
        (ascii "savepoint '" ++ name ++
          ascii "' already ended")
  | sameConnection =>
      usage
        (ascii "backup source and destination are the " ++
          ascii "same connection")
  | backupFinished =>
      usage (ascii "backup is finished")

end Refusal

end SqliteAccess
