import SqliteAccess.Connection.Registry

/-
  Copying one database over another, page by page.

  A running backup is listed by both of its connections, and
  neither of them can be closed.

  Key definitions include:
    * `Backup.start`
    * `Backup.step`
    * `Backup.remaining`
    * `Backup.pageCount`
    * `Backup.finish`
    * `Backup.detach`
    * `Backup.destroy`
    * `Backup.copyAll`
-/

namespace SqliteAccess

namespace Backup

variable {E : Engine}

open Quiet Attempt

/- The backup at a place. -/
def lookup (p : Place) : Quiet E Backup :=
  read (·.backup p)

------------------------------------------------------------
-- Starting
------------------------------------------------------------

/- Keep a new backup at a place and list it. -/
def register
    (p : Place)
    (bk : BackupHandle)
    (source destination : ConnectionId)
    (w : World E) : World E :=
  let w := w.modifyConnection source (·.addBackup p)
  let w := w.modifyConnection destination (·.addBackup p)
  { w with
    issued.backups := bk.number
    backups := w.backups.put p
      { handle := some bk
        source := some source
        destination := some destination
        complete := false } }

/-
  Start a backup between two connections and keep it at a
  place, where no other backup is.
-/
def start
    (p : Place)
    (source destination : ConnectionId)
    (sourceSchema destinationSchema : Bytes) :
    Attempt E Unit := do
  require (source ≠ destination) .sameConnection
  let sourceDb ← Connection.requireOpen source "backup"
  let db ← Connection.requireOpen destination "backup"
  let number := (← lift (read (·.issued.backups))) + 1
  let bk : BackupHandle := { number }
  let created : Bool ← lift <| invoke <| .startBackup
    db (Bytes.untilNul destinationSchema)
    sourceDb (Bytes.untilNul sourceSchema) bk
  if created then
    lift (update (register p bk source destination))
  else
    let code : ResultCode ← lift (invoke (.errorCode db))
    fail (← lift (handleError db code .other []))

------------------------------------------------------------
-- Copying
------------------------------------------------------------

/-
  Copy some pages, all of them if the number is negative.
  The result tells whether everything has been copied.
-/
def step
    (p : Place)
    (pages : Int) : Attempt E Bool := do
  let b ← lift (lookup p)
  if b.complete then
    return true
  match b.handle with
  | none => refuse .backupFinished
  | some bk =>
      let code : ResultCode ←
        lift (invoke (.stepBackup bk pages))
      if code = ResultCode.done then
        lift <| update <| World.modifyBackup p fun b =>
          { b with complete := true }
        return true
      else if code = ResultCode.ok then
        return false
      else
        fail <| .ofCode code .other
          (Bytes.ascii "backup step failed: " ++
            E.describe code)
          [] none

/- The pages that are left, as of the last step. -/
def remaining (p : Place) : Attempt E Int := do
  let b ← lift (lookup p)
  match b.handle with
  | some bk => lift (invoke (.remainingPages bk))
  | none =>
      require b.complete .backupFinished
      return 0

/- The pages of the source, as of the last step. -/
def pageCount (p : Place) : Attempt E Int := do
  match (← lift (lookup p)).handle with
  | some bk => lift (invoke (.pageCount bk))
  | none => refuse .backupFinished

------------------------------------------------------------
-- Finishing
------------------------------------------------------------

/-
  Finish a backup: take it off the lists and give its handle
  back.  A failure is worth a warning only after a complete
  copy; otherwise a step has reported it.
-/
def finish (p : Place) : Quiet E Unit := do
  let b ← lookup p
  match b.handle with
  | none => pure ()
  | some bk =>
      update <| World.modifyLinked b.source
        (·.removeBackup p)
      update <| World.modifyLinked b.destination
        (·.removeBackup p)
      update <| World.modifyBackup p fun b =>
        { b.unlisted with handle := none }
      let code : ResultCode ← invoke (.finishBackup bk)
      if b.complete ∧ code ≠ ResultCode.ok then
        note .warning
          "sqlite3_backup_finish failed after a complete copy"
          [.ofInt "code" code,
            .ofText "name" (ResultCode.name code)]

/- Finish a backup one of whose connections goes away. -/
def detach
    (closing : ConnectionId)
    (p : Place) : Quiet E Unit := do
  let conn ← Connection.lookup closing
  note .warning
    "finalizing live backup of a closing connection"
    [.ofText "path" conn.path]
  update (World.modifyBackup p (·.without closing))
  finish p

/- Destroy a backup. -/
def destroy (p : Place) : Quiet E Unit := do
  finish p
  update fun w => { w with backups := w.backups.erase p }

/- Copy a whole database over another one. -/
def copyAll
    (source destination : ConnectionId) :
    Attempt E Unit := do
  let main := Bytes.ascii "main"
  start .scratch source destination main main
  ensuring
    (do
      let _ ← step .scratch (-1)
      lift (finish .scratch))
    (destroy .scratch)

end Backup

end SqliteAccess
