import SqliteAccess.Backup.Basic
import SqliteAccess.Connection.Basic
import SqliteAccess.Engine.Basic
import SqliteAccess.Log
import SqliteAccess.Table
import SqliteAccess.Statement.Basic
import SqliteAccess.Transaction.Basic

/-
  The state of a session: the engine, the objects that
  callers hold, and the log.

  Key definitions include:
    * `Library`
    * `World`
    * `Session`
-/

namespace SqliteAccess

------------------------------------------------------------
-- The Library
------------------------------------------------------------

/-
  The use of the engine by the whole process: whether it has
  been started, whether it shall be shut down as soon as no
  connection needs it, and how many connections hold it.
-/
structure Library where
  started : Bool := false
  shutdownPending : Bool := false
  holders : Nat := 0
  deriving DecidableEq

------------------------------------------------------------
-- The World
------------------------------------------------------------

/-
  How many handles and tokens have been numbered so far; the
  next one gets the next number.
-/
structure Issued where
  databases : Nat := 0
  statements : Nat := 0
  backups : Nat := 0
  connections : Nat := 0
  anchors : Nat := 0
  deriving DecidableEq

/-
  Everything but the log: the engine and the calls it has
  answered, how often a loop may ask it before it is given
  up, the library, and the objects of the session.

  Connections are known by their identity.  A caller knows
  them by a number, either as a plain or as a serialized
  connection.
-/
structure World (E : Engine) where
  engine : E.State
  trace : Trace := []
  patience : Nat
  issued : Issued := {}
  library : Library := {}
  connections : Table ConnectionId Connection := {}
  plain : Table Nat ConnectionId := {}
  serialized : Table Nat ConnectionId := {}
  statements : Table Place Statement := {}
  anchors : Table Anchor Place := {}
  rows : Table Nat Row := {}
  transactions : Table Place Transaction := {}
  savepoints : Table Place Savepoint := {}
  backups : Table Place Backup := {}

namespace World

variable {E : Engine}

------------------------------------------------------------
-- Looking Up
------------------------------------------------------------

/- The connection with an identity. -/
def connection
    (w : World E)
    (c : ConnectionId) : Connection :=
  (w.connections.get? c).getD .vacant

/- The statement at a place. -/
def statement
    (w : World E)
    (p : Place) : Statement :=
  (w.statements.get? p).getD .vacant

/- The backup at a place. -/
def backup
    (w : World E)
    (p : Place) : Backup :=
  (w.backups.get? p).getD .vacant

/-
  The place of the statement that a row was read from, if it
  still exists.
-/
def placeOf
    (w : World E)
    (r : Row) : Option Place :=
  r.anchor.bind w.anchors.get?

/- Whether a row can still be read. -/
def isCurrent
    (w : World E)
    (r : Row) : Bool :=
  match w.placeOf r with
  | none => false
  | some p => r.matches (w.statement p)

------------------------------------------------------------
-- Changing
------------------------------------------------------------

/- Change a connection that exists. -/
def modifyConnection
    (c : ConnectionId)
    (f : Connection → Connection)
    (w : World E) : World E :=
  match w.connections.get? c with
  | none => w
  | some conn =>
      { w with connections := w.connections.put c (f conn) }

/- Change a connection if there is one to change. -/
def modifyLinked
    (c : Option ConnectionId)
    (f : Connection → Connection)
    (w : World E) : World E :=
  match c with
  | none => w
  | some c => w.modifyConnection c f

/- Change a statement that exists. -/
def modifyStatement
    (p : Place)
    (f : Statement → Statement)
    (w : World E) : World E :=
  match w.statements.get? p with
  | none => w
  | some s =>
      { w with statements := w.statements.put p (f s) }

/- Change a transaction guard that exists. -/
def modifyTransaction
    (p : Place)
    (f : Transaction → Transaction)
    (w : World E) : World E :=
  match w.transactions.get? p with
  | none => w
  | some t =>
      { w with transactions := w.transactions.put p (f t) }

/- Change a savepoint guard that exists. -/
def modifySavepoint
    (p : Place)
    (f : Savepoint → Savepoint)
    (w : World E) : World E :=
  match w.savepoints.get? p with
  | none => w
  | some s =>
      { w with savepoints := w.savepoints.put p (f s) }

/- Change a backup that exists. -/
def modifyBackup
    (p : Place)
    (f : Backup → Backup)
    (w : World E) : World E :=
  match w.backups.get? p with
  | none => w
  | some b =>
      { w with backups := w.backups.put p (f b) }

/- Let a token point to a place. -/
def setAnchor
    (a : Option Anchor)
    (p : Place)
    (w : World E) : World E :=
  match a with
  | none => w
  | some a => { w with anchors := w.anchors.put a p }

/- Let the rows of a token expire. -/
def dropAnchor
    (a : Option Anchor)
    (w : World E) : World E :=
  match a with
  | none => w
  | some a => { w with anchors := w.anchors.erase a }

end World

------------------------------------------------------------
-- The Session
------------------------------------------------------------

/- The state of a session. -/
structure Session (E : Engine) where
  world : World E
  log : Log

end SqliteAccess
