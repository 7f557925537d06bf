import SqliteAccess.Connection.Options
import SqliteAccess.Engine.Call
import SqliteAccess.Session.Place

/-
  Connections.

  Key definitions include:
    * `Connection`
    * `Connection.vacant`
-/

namespace SqliteAccess

/-
  A connection: its database handle while it is open, its
  path and options, and the places of the statements and the
  backups that keep it from closing.
-/
structure Connection where
  handle : Option DatabaseHandle
  path : Bytes
  options : ConnectionOptions
  statements : List Place
  backups : List Place
  deriving DecidableEq

namespace Connection

/- What an identity without a connection reads as. -/
def vacant : Connection :=
  { handle := none
    path := []
    options := {}
    statements := []
    backups := [] }

/- Whether a connection has a database handle. -/
def isOpen (c : Connection) : Bool :=
  c.handle.isSome

/- Whether statements or backups are live. -/
def hasChildren (c : Connection) : Bool :=
  ! (c.statements.isEmpty && c.backups.isEmpty)

/- Enter a statement. -/
def addStatement
    (c : Connection)
    (p : Place) : Connection :=
  { c with
    statements := p :: c.statements.filter (· ≠ p) }

/- Strike out a statement. -/
def removeStatement
    (c : Connection)
    (p : Place) : Connection :=
  { c with statements := c.statements.filter (· ≠ p) }

/- Enter a statement in the place of another one. -/
def replaceStatement
    (c : Connection)
    (old new : Place) : Connection :=
  if old ∈ c.statements then
    (c.removeStatement old).addStatement new
  else
    c

/- Enter a backup. -/
def addBackup
    (c : Connection)
    (p : Place) : Connection :=
  { c with backups := p :: c.backups.filter (· ≠ p) }

/- Strike out a backup. -/
def removeBackup
    (c : Connection)
    (p : Place) : Connection :=
  { c with backups := c.backups.filter (· ≠ p) }

end Connection

end SqliteAccess
