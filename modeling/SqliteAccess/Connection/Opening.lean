import SqliteAccess.Backup.Copying
import SqliteAccess.Connection.Pragma
import SqliteAccess.Connection.Settings
import SqliteAccess.Session.Library

/-
  Opening, closing and destroying connections.

  A connection is closed only when no statement and no backup
  of it is live.  One that is destroyed all the same
  finalizes them first.

  Key definitions include:
    * `Connection.openAt`
    * `Connection.close`
    * `Connection.destroy`
-/

namespace SqliteAccess

namespace Connection

variable {E : Engine}

open Quiet Attempt

------------------------------------------------------------
-- Releasing the Handle
------------------------------------------------------------

/- Forget the handle of a connection. -/
def withoutHandle (c : Connection) : Connection :=
  { c with handle := none }

/- Tell the log that a connection is closed. -/
def noteClosed (c : ConnectionId) : Quiet E Unit := do
  note .debug "connection closed"
    [.ofText "path" (← lookup c).path]

/-
  Finalize the statements of a database, one after the other
  as the engine names them, at most a given number.
-/
def finalizeLeft
    (db : DatabaseHandle) : Nat → Quiet E Unit
  | 0 => pure ()
  | n + 1 => do
      let left ← read (·.trace.unfinalizedOn db)
      let next : NextStatement left ←
        invoke (.nextStatement db left)
      match next.val with
      | none => pure ()
      | some st => do
          let _ ← invoke (.finalize st)
          finalizeLeft db n

/-
  Close a database handle.  Statements that nobody keeps
  track of are finalized if they are in the way.
-/
def closeStubborn
    (db : DatabaseHandle)
    (path : Bytes) : Quiet E ResultCode := do
  let code : ResultCode ← invoke (.close db)
  if code ≠ ResultCode.busy then
    return code
  else
    note .error
      "untracked statements left on connection, finalizing them"
      [.ofText "path" path]
    let left ← read (·.trace.unfinalizedOn db)
    finalizeLeft db (left.length + 1)
    invoke (.close db)

/-
  Release the handle of a connection, whatever it takes.  A
  handle that cannot be closed now is closed later by the
  engine.
-/
def releaseHandle (c : ConnectionId) : Quiet E Unit := do
  let conn ← lookup c
  match conn.handle with
  | none => pure ()
  | some db =>
      let code ← closeStubborn db conn.path
      if code ≠ ResultCode.ok then
        note .error "sqlite3_close failed, deferring release"
          [.ofText "path" conn.path,
            .ofText "code" (ResultCode.name code)]
        invoke (.closeLater db)
      update (World.modifyConnection c withoutHandle)
      noteClosed c

/- Close a connection, unless something of it is live. -/
def close (c : ConnectionId) : Attempt E Unit := do
  let conn ← lift (lookup c)
  match conn.handle with
  | none => pure ()
  | some db =>
      require (! conn.hasChildren)
        (.liveChildren conn.statements.length
          conn.backups.length)
      let code : ResultCode ← lift (invoke (.close db))
      check db code .other
      lift (update (World.modifyConnection c withoutHandle))
      lift (noteClosed c)

------------------------------------------------------------
-- Destroying
------------------------------------------------------------

/- A connection that lists nothing. -/
def childless (c : Connection) : Connection :=
  { c with statements := [], backups := [] }

/- Finalize what is live, the backups first. -/
def releaseChildren (c : ConnectionId) : Quiet E Unit := do
  let conn ← lookup c
  update (World.modifyConnection c childless)
  each (Backup.detach c)
    (Ascending.sort Place.rank conn.backups)
  each Statement.detach
    (Ascending.sort Place.rank conn.statements)

/- Forget a connection. -/
def forget
    (c : ConnectionId)
    (w : World E) : World E :=
  { w with connections := w.connections.erase c }

/- Close a connection with everything that is live. -/
def shut (c : ConnectionId) : Quiet E Unit := do
  let conn ← lookup c
  if conn.isOpen then
    if conn.hasChildren then
      note .warning
        "connection destroyed with live handles, finalizing them"
        [.ofText "path" conn.path,
          .ofInt "statements" conn.statements.length,
          .ofInt "backups" conn.backups.length]
      releaseChildren c
    releaseHandle c

/- Destroy a connection. -/
def destroy (c : ConnectionId) : Quiet E Unit := do
  shut c
  update (forget c)
  Library.release

------------------------------------------------------------
-- Opening
------------------------------------------------------------

/-
  The error of an opening that failed.  A handle that it left
  carries the error, and is closed.
-/
def openingError
    (db : DatabaseHandle)
    (path : Bytes)
    (answer : OpenAnswer) : Quiet E DatabaseError := do
  let (code, reason) ←
    if answer.created then do
      let code : ResultCode ←
        invoke (.extendedErrorCode db)
      let reason : Bytes ← invoke (.errorMessage db)
      let _ ← invoke (.close db)
      pure (code, reason)
    else
      pure (answer.code, E.describe answer.code)
  return .ofKind .opening
    (Bytes.ascii "failed to open database '" ++ path ++
      Bytes.ascii "': " ++ reason)
    code [] none

/- Open a database handle. -/
def openHandle
    (path : Bytes)
    (flags : OpenFlags) : Attempt E DatabaseHandle := do
  let number := (← lift (read (·.issued.databases))) + 1
  let db : DatabaseHandle := { number }
  let answer : OpenAnswer ←
    lift (invoke (.openDatabase path flags.bits db))
  if answer.created then
    lift <| update fun w =>
      { w with issued.databases := number }
  if answer.code ≠ ResultCode.ok ∨ ! answer.created then
    fail (← lift (openingError db path answer))
  return db

/- Enter a new connection. -/
def register
    (c : ConnectionId)
    (db : DatabaseHandle)
    (path : Bytes)
    (options : ConnectionOptions)
    (w : World E) : World E :=
  { w with
    issued.connections := c.number
    connections := w.connections.put c
      { handle := some db
        path
        options
        statements := []
        backups := [] } }

/- Configure a new connection. -/
def applyOptions
    (c : ConnectionId)
    (options : ConnectionOptions) : Attempt E Unit := do
  setExtendedCodes c options.extendedCodes
  match options.busyTimeout with
  | none => pure ()
  | some milliseconds => setBusyTimeout c milliseconds
  if options.strictQuoting then
    setConfig c .quotedStringsInData false
    setConfig c .quotedStringsInDefinitions false
  if options.foreignKeys then
    let _ ← execute c (Bytes.ascii "PRAGMA foreign_keys = ON")
  if options.writeAheadLog then
    setPragma c (Bytes.ascii "journal_mode")
      (.text (Bytes.ascii "WAL"))

/-
  Open and configure a connection that holds the library.  If
  the configuration fails, the handle is released.
-/
def establish
    (path : Bytes)
    (options : ConnectionOptions) :
    Attempt E ConnectionId := do
  let flags ← accept (options.flags.native path)
  let db ← openHandle path flags
  let number := (← lift (read (·.issued.connections))) + 1
  let c : ConnectionId := { number }
  lift (update (register c db path options))
  onFailure (applyOptions c options)
    (do
      releaseHandle c
      update (forget c))
  lift <| note .debug "connection opened"
    [.ofText "path" path,
      .ofInt "flags" flags.bits.toInt]
  return c

/- Open a connection to the database at a path. -/
def openAt
    (path : Bytes)
    (options : ConnectionOptions) :
    Attempt E ConnectionId := do
  Library.hold
  onFailure (establish path options) Library.release

end Connection

end SqliteAccess
