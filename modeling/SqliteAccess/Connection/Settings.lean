import SqliteAccess.Connection.Registry

/-
  Settings of a connection, and what it tells about itself.

  Key definitions include:
    * `Connection.setConfig`
    * `Connection.getConfig`
    * `Connection.setBusyTimeout`
    * `Connection.interrupt`
    * `Connection.isAutocommit`
    * `Connection.transactionState`
    * `Connection.isReadOnly`
    * `Connection.lastRowId`
    * `Connection.changes`
    * `Connection.totalChanges`
-/

namespace SqliteAccess

namespace Connection

variable {E : Engine}

open Quiet Attempt

------------------------------------------------------------
-- Settings
------------------------------------------------------------

/- Turn a switch of the engine on or off. -/
def setConfig
    (c : ConnectionId)
    (flag : ConfigFlag)
    (on : Bool) : Attempt E Unit := do
  let db ← requireOpen c "setConfig"
  let answer : ConfigureAnswer ← lift <| invoke <|
    .configure db flag (if on then 1 else 0)
  check db answer.code .other

/- Whether a switch is on; a negative value asks. -/
def getConfig
    (c : ConnectionId)
    (flag : ConfigFlag) : Attempt E Bool := do
  let db ← requireOpen c "getConfig"
  let answer : ConfigureAnswer ←
    lift (invoke (.configure db flag (-1)))
  check db answer.code .other
  return answer.value

/- Set how long to wait for the locks of others. -/
def setBusyTimeout
    (c : ConnectionId)
    (milliseconds : Int) : Attempt E Unit := do
  let db ← requireOpen c "setBusyTimeout"
  require (0 ≤ milliseconds) (.negativeTimeout milliseconds)
  let code : ResultCode ←
    lift (invoke (.busyTimeout db milliseconds))
  check db code .other

/- Choose whether result codes are refined. -/
def setExtendedCodes
    (c : ConnectionId)
    (on : Bool) : Attempt E Unit := do
  match (← lift (lookup c)).handle with
  | none => pure ()
  | some db =>
      let code : ResultCode ←
        lift (invoke (.extendedCodes db on))
      check db code .opening

/- Cancel what runs on an open connection. -/
def interrupt (c : ConnectionId) : Quiet E Unit := do
  match (← lookup c).handle with
  | none => pure ()
  | some db => invoke (.interrupt db)

------------------------------------------------------------
-- Questions
------------------------------------------------------------

/- Whether no transaction is open. -/
def isAutocommit (c : ConnectionId) : Attempt E Bool := do
  let db ← requireOpen c "isAutocommit"
  lift (invoke (.autocommit db))

/-
  How far the transaction of a schema has gone; the empty
  name asks for the highest of all.  A schema that is not
  attached has none.
-/
def transactionState
    (c : ConnectionId)
    (schema : Bytes) : Attempt E (Option Int) := do
  let db ← requireOpen c "transactionState"
  let asked :=
    if schema.isEmpty then none
    else some (Bytes.untilNul schema)
  let state : Int ←
    lift (invoke (.transactionState db asked))
  return if state < 0 then none else some state

/-
  Whether a schema is read-only, if it is attached at all.
-/
def isReadOnly
    (c : ConnectionId)
    (schema : Bytes) : Attempt E (Option Bool) := do
  let db ← requireOpen c "isReadOnly"
  let state : Int ← lift <| invoke <|
    .readOnlySchema db (Bytes.untilNul schema)
  return if state < 0 then none else some (state ≠ 0)

/- The row that was inserted last. -/
def lastRowId (c : ConnectionId) : Attempt E Int64 := do
  let db ← requireOpen c "lastInsertRowId"
  lift (invoke (.lastRowId db))

/- The rows that the last statement changed. -/
def changes (c : ConnectionId) : Attempt E Int := do
  let db ← requireOpen c "changes"
  lift (invoke (.changes db))

/- The rows that were changed since the opening. -/
def totalChanges (c : ConnectionId) : Attempt E Int := do
  let db ← requireOpen c "totalChanges"
  lift (invoke (.totalChanges db))

end Connection

end SqliteAccess
