import SqliteAccess.Session.Attempt

/-
  What statements, guards and backups ask of a connection.

  Key definitions include:
    * `Connection.lookup`
    * `Connection.requireOpen`
-/

namespace SqliteAccess

namespace Connection

variable {E : Engine}

open Quiet Attempt

/- The connection with an identity. -/
def lookup (c : ConnectionId) : Quiet E Connection :=
  read (·.connection c)

/-
  The handle of an open connection, for an operation that
  cannot do without.
-/
def requireOpen
    (c : ConnectionId)
    (operation : String) : Attempt E DatabaseHandle := do
  match (← lift (lookup c)).handle with
  | some db => return db
  | none => refuse (.connectionClosed operation)

end Connection

end SqliteAccess
