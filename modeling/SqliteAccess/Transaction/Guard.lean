import SqliteAccess.Connection.Execution
import SqliteAccess.Connection.Settings

/-
  Transactions under a guard.

  A guard that is destroyed or overwritten while it is active
  rolls its transaction back.  It does nothing for a
  connection that is gone, is closed or has no transaction
  open.

  Key definitions include:
    * `Transaction.start`
    * `Transaction.commit`
    * `Transaction.rollback`
    * `Transaction.move`
    * `Transaction.assign`
    * `Transaction.destroy`
    * `Transaction.within`
-/

namespace SqliteAccess

------------------------------------------------------------
-- Connections of Guards
------------------------------------------------------------

namespace Connection

variable {E : Engine}

open Quiet Attempt

/- A connection, if it still exists. -/
def existing
    (c : Option ConnectionId) :
    Quiet E (Option ConnectionId) := do
  match c with
  | none => return none
  | some c =>
      if ← read (·.connections.contains c) then
        return some c
      else
        return none

/- A connection that must still exist. -/
def requireExisting
    (c : Option ConnectionId) : Attempt E ConnectionId := do
  match ← lift (existing c) with
  | some c => return c
  | none => refuse .connectionDestroyed

/-
  Whether an open connection has a transaction open.  A
  connection that is gone or closed has none, and is not
  asked; the first result tells whether it was.
-/
def openTransaction
    (c : Option ConnectionId) :
    Quiet E (Option ConnectionId × Bool) := do
  match ← existing c with
  | none => return (none, false)
  | some c =>
      match (← lookup c).handle with
      | none => return (none, false)
      | some db =>
          let idle : Bool ← invoke (.autocommit db)
          return (some c, ! idle)

end Connection

namespace Transaction

variable {E : Engine} {α : Type}

open Quiet Attempt

/- The guard at a place; a missing one has nothing to end. -/
def lookup (p : Place) : Quiet E Transaction :=
  read fun w => (w.transactions.get? p).getD
    { connection := none, type := .deferred, active := false }

------------------------------------------------------------
-- Beginning and Ending
------------------------------------------------------------

/- The statement that begins a transaction. -/
def beginSql (type : TransactionType) : Bytes :=
  Bytes.ascii "BEGIN " ++ Bytes.ascii type.name ++
    Bytes.ascii " TRANSACTION"

/-
  Begin a transaction and keep its guard at a place, where no
  other guard is.
-/
def start
    (c : ConnectionId)
    (p : Place)
    (type : TransactionType) : Attempt E Unit := do
  let _ ← Connection.execute c (beginSql type)
  lift <| update fun w =>
    { w with
      transactions := w.transactions.put p
        { connection := some c, type, active := true } }

/-
  Commit.  The guard stays active if the engine refuses.
-/
def commit (p : Place) : Attempt E Unit := do
  let t ← lift (lookup p)
  require t.active .transactionEnded
  let c ← Connection.requireExisting t.connection
  let _ ← Connection.execute c (Bytes.ascii "COMMIT")
  lift (update (World.modifyTransaction p ended))

/-
  Roll back, unless the engine has done so.  The guard is
  inactive from then on.
-/
def rollback (p : Place) : Attempt E Unit := do
  let t ← lift (lookup p)
  require t.active .transactionEnded
  let c ← Connection.requireExisting t.connection
  lift (update (World.modifyTransaction p ended))
  if ! (← Connection.isAutocommit c) then
    let _ ← Connection.execute c (Bytes.ascii "ROLLBACK")

/- Roll back without failing; a failure is logged. -/
def rollbackQuietly (p : Place) : Quiet E Unit := do
  let t ← lookup p
  update (World.modifyTransaction p ended)
  match ← Connection.openTransaction t.connection with
  | (none, _) => pure ()
  | (some _, false) =>
      note .debug
        "transaction already rolled back by the engine"
  | (some c, true) =>
      tolerate
        (do
          let _ ←
            Connection.execute c (Bytes.ascii "ROLLBACK"))
        (fun e =>
          note .error "rollback in destructor failed"
            [.ofText "error" (Bytes.untilNul e.report),
              .ofInt "code" e.code])

------------------------------------------------------------
-- Moving and Destroying
------------------------------------------------------------

/- Take a guard from one place to another. -/
def transfer
    (source target : Place)
    (w : World E) : World E :=
  match w.transactions.get? source with
  | none => w
  | some t =>
      { w with
        transactions :=
          (w.transactions.put target t).put source
            t.emptied }

/- Move a guard to a place that is free. -/
def move (source target : Place) : Quiet E Unit :=
  update (transfer source target)

/- Roll back if the guard at a place is active. -/
def abandon (p : Place) : Quiet E Unit := do
  if (← lookup p).active then
    rollbackQuietly p

/-
  Move a guard over another one, which rolls back if it is
  active.  Moving it over itself changes nothing.
-/
def assign (source target : Place) : Quiet E Unit :=
  if source = target then
    pure ()
  else do
    abandon target
    update (transfer source target)

/- Destroy a guard, which rolls back if it is active. -/
def destroy (p : Place) : Quiet E Unit := do
  abandon p
  update fun w =>
    { w with transactions := w.transactions.erase p }

/-
  Work inside a transaction that is committed after the work
  and rolled back if the work fails.
-/
def within
    (c : ConnectionId)
    (work : Place → Attempt E α) : Attempt E α := do
  start c .scratch .deferred
  ensuring
    (do
      let result ← work .scratch
      commit .scratch
      return result)
    (destroy .scratch)

end Transaction

end SqliteAccess
