import SqliteAccess.Text.Bytes
import SqliteAccess.Transaction.Guard

/-
  Savepoints under a guard.

  A guard that is destroyed or overwritten while it is active
  releases its savepoint, whose work stays part of the
  transaction around it.

  Key definitions include:
    * `Savepoint.acceptsName`
    * `Savepoint.start`
    * `Savepoint.release`
    * `Savepoint.rollback`
    * `Savepoint.move`
    * `Savepoint.assign`
    * `Savepoint.destroy`
    * `Transaction.savepoint`
-/

namespace SqliteAccess

namespace Savepoint

variable {E : Engine}

open Quiet Attempt

/- The guard at a place; a missing one has nothing to end. -/
def lookup (p : Place) : Quiet E Savepoint :=
  read fun w => (w.savepoints.get? p).getD
    { connection := none, name := [], active := false }

------------------------------------------------------------
-- Making and Ending
------------------------------------------------------------

/- The statement that makes a savepoint. -/
def startSql (name : Bytes) : Bytes :=
  Bytes.ascii "SAVEPOINT " ++ name

/- The statement that releases a savepoint. -/
def releaseSql (name : Bytes) : Bytes :=
  Bytes.ascii "RELEASE SAVEPOINT " ++ name

/- The statement that rolls back to a savepoint. -/
def rollbackSql (name : Bytes) : Bytes :=
  Bytes.ascii "ROLLBACK TO SAVEPOINT " ++ name

/-
  Whether a name may be that of a savepoint: it starts with a
  letter or an underscore, and then each of its bytes is
  looked at in turn.
-/
def acceptsName (name : Bytes) : Bool :=
  name.foldl (fun valid b => valid && Bytes.isWordByte b)
    (name.head?.any fun b =>
      Bytes.isLetter b || b == Bytes.byte '_')

/-
  Make a savepoint and keep its guard at a place, where no
  other guard is.
-/
def start
    (c : ConnectionId)
    (p : Place)
    (name : Bytes) : Attempt E Unit := do
  require (acceptsName name) (.savepointName name)
  let _ ← Connection.execute c (startSql name)
  lift <| update fun w =>
    { w with
      savepoints := w.savepoints.put p
        { connection := some c, name, active := true } }

/-
  Release a savepoint.  The guard stays active if the engine
  refuses.
-/
def release (p : Place) : Attempt E Unit := do
  let s ← lift (lookup p)
  require s.active (.savepointEnded s.name)
  let c ← Connection.requireExisting s.connection
  let _ ← Connection.execute c (releaseSql s.name)
  lift (update (World.modifySavepoint p ended))

/-
  Roll back to a savepoint and release it.  The guard stays
  active if the engine refuses either.
-/
def rollback (p : Place) : Attempt E Unit := do
  let s ← lift (lookup p)
  require s.active (.savepointEnded s.name)
  let c ← Connection.requireExisting s.connection
  let _ ← Connection.execute c (rollbackSql s.name)
  let _ ← Connection.execute c (releaseSql s.name)
  lift (update (World.modifySavepoint p ended))

/- Release without failing; a failure is logged. -/
def releaseQuietly (p : Place) : Quiet E Unit := do
  let s ← lookup p
  update (World.modifySavepoint p ended)
  match ← Connection.openTransaction s.connection with
  | (some c, true) =>
      tolerate
        (do
          let _ ← Connection.execute c (releaseSql s.name))
        (fun e =>
          note .error
            "releasing savepoint in destructor failed"
            [.ofText "savepoint" s.name,
              .ofText "error" (Bytes.untilNul e.report)])
  | _ => pure ()

------------------------------------------------------------
-- Moving and Destroying
------------------------------------------------------------

/- Take a guard from one place to another. -/
def transfer
    (source target : Place)
    (w : World E) : World E :=
  match w.savepoints.get? source with
  | none => w
  | some s =>
      { w with
        savepoints :=
          (w.savepoints.put target s).put source
            s.emptied }

/- Move a guard to a place that is free. -/
def move (source target : Place) : Quiet E Unit :=
  update (transfer source target)

/- Release the savepoint if the guard at a place is active. -/
def abandon (p : Place) : Quiet E Unit := do
  if (← lookup p).active then
    releaseQuietly p

/-
  Move a guard over another one, which releases its savepoint
  if it is active.  Moving it over itself changes nothing.
-/
def assign (source target : Place) : Quiet E Unit :=
  if source = target then
    pure ()
  else do
    abandon target
    update (transfer source target)

/- Destroy a guard, which releases an active savepoint. -/
def destroy (p : Place) : Quiet E Unit := do
  abandon p
  update fun w =>
    { w with savepoints := w.savepoints.erase p }

end Savepoint

namespace Transaction

variable {E : Engine}

open Quiet Attempt

/- Make a savepoint inside the transaction of a guard. -/
def savepoint
    (t p : Place)
    (name : Bytes) : Attempt E Unit := do
  let guard ← lift (lookup t)
  require guard.active .savepointOutside
  let c ← Connection.requireExisting guard.connection
  Savepoint.start c p name

end Transaction

end SqliteAccess
