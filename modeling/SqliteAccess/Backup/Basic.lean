import SqliteAccess.Engine.Call
import SqliteAccess.Session.Place

/-
  Backups.

  Key definitions include:
    * `Backup`
-/

namespace SqliteAccess

/-
  A backup: its handle until it is finished, the connections
  it copies from and to while it is listed there, and whether
  everything has been copied.
-/
structure Backup where
  handle : Option BackupHandle
  source : Option ConnectionId
  destination : Option ConnectionId
  complete : Bool
  deriving DecidableEq

namespace Backup

/- What a place without a backup reads as. -/
def vacant : Backup :=
  { handle := none
    source := none
    destination := none
    complete := false }

/- A backup that is listed by no connection. -/
def unlisted (b : Backup) : Backup :=
  { b with source := none, destination := none }

/- A backup without the connection that goes away. -/
def without
    (b : Backup)
    (c : ConnectionId) : Backup :=
  { b with
    source := if b.source = some c then none else b.source
    destination :=
      if b.destination = some c then none
      else b.destination }

end Backup

end SqliteAccess
