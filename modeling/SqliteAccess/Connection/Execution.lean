import SqliteAccess.Statement.Binding
import SqliteAccess.Statement.Columns

/-
  Running SQL text on a connection.

  Key definitions include:
    * `Connection.execute`
    * `Connection.executeBatch`
    * `Connection.tableExists`
-/

namespace SqliteAccess

namespace Connection

variable {E : Engine}

open Quiet Attempt

------------------------------------------------------------
-- One Statement
------------------------------------------------------------

/-
  Run a text that holds exactly one statement.  The result is
  the number of changed rows.
-/
def execute
    (c : ConnectionId)
    (sql : Bytes) : Attempt E Int :=
  Statement.within c sql fun p => do
    let s ← lift (Statement.lookup p)
    require (! s.hasTail) (.moreSql s.tailOffset sql)
    Statement.execute p

------------------------------------------------------------
-- Many Statements
------------------------------------------------------------

/-
  Run the first statement of a text and finalize it.  The
  result tells where the text that follows it starts.
-/
def executeFirst
    (c : ConnectionId)
    (sql : Bytes) : Attempt E Nat :=
  Statement.within c sql fun p => do
    let consumed :=
      (← lift (Statement.lookup p)).tailOffset
    let _ ← Statement.execute p
    lift (Statement.finalize p)
    return consumed

/- Run the statements of a text, up to a number. -/
def executeUpTo
    (c : ConnectionId) : Nat → Bytes → Attempt E Unit
  | 0, _ => throw .endless
  | n + 1, sql => do
      let sql := Blank.rest sql
      if ! sql.isEmpty then
        let consumed ← executeFirst c sql
        executeUpTo c n (sql.drop consumed)

/-
  Run every statement of a text in order, up to the first one
  that fails.
-/
def executeBatch
    (c : ConnectionId)
    (sql : Bytes) : Attempt E Unit := do
  executeUpTo c (← lift (read (·.patience))) sql

------------------------------------------------------------
-- Queries
------------------------------------------------------------

/- The query for a table of a given name. -/
def tableQuery : Bytes :=
  Bytes.ascii "SELECT 1 FROM sqlite_master " ++
    Bytes.ascii "WHERE type='table' AND name=?"

/- Whether a table exists. -/
def tableExists
    (c : ConnectionId)
    (name : Bytes) : Attempt E Bool :=
  Statement.within c tableQuery fun p => do
    Statement.bindText p 1 name
    Statement.next p

end Connection

end SqliteAccess
