import SqliteAccess.Operation.Perform

/-
  Running the operations of a session.

  Key definitions include:
    * `Session.start`
    * `Session.run`
    * `Session.runAll`
    * `Session.dismantle`
    * `Report`
    * `Session.report`
-/

namespace SqliteAccess

namespace Session

variable {E : Engine} {α : Type}

open Quiet Attempt

------------------------------------------------------------
-- Runs
------------------------------------------------------------

/-
  A session without objects, on an engine in a given state.
  A loop of the session asks the engine at most `patience`
  times.
-/
def start
    (engine : E.State)
    (patience : Nat)
    (log : Log) : Session E :=
  { world := { engine, patience }, log }

/- Carry out an operation. -/
def run
    (s : Session E)
    (op : Operation) :
    Except Failure Reply × Session E :=
  op.perform.run s

/- Carry out operations one after the other. -/
def runAll
    (s : Session E) :
    List Operation →
      List (Except Failure Reply) × Session E
  | [] => ([], s)
  | op :: r =>
      let (reply, s) := s.run op
      let (replies, s) := runAll s r
      (reply :: replies, s)

------------------------------------------------------------
-- The End of a Session
------------------------------------------------------------

/- The places of a table, in ascending order. -/
def places (t : Table Place α) : List Place :=
  Ascending.sort Place.rank t.keys

/- The slots of a table, in ascending order. -/
def slots (t : Table Nat α) : List Nat :=
  Ascending.sort id t.keys

/-
  Destroy every object that is left: guards before
  statements, and statements before their connections.
-/
def dismantleAll : Quiet E Unit := do
  each Savepoint.destroy (← read (places ·.savepoints))
  each Transaction.destroy
    (← read (places ·.transactions))
  update fun w => { w with rows := {} }
  each Backup.destroy (← read (places ·.backups))
  each Statement.destroy (← read (places ·.statements))
  each Operation.vacateSerialized
    (← read (slots ·.serialized))
  each Operation.vacateConnection (← read (slots ·.plain))

/- The session after everything in it was destroyed. -/
def dismantle (s : Session E) : Session E :=
  (dismantleAll.run s).2

end Session

------------------------------------------------------------
-- Reports
------------------------------------------------------------

/-
  What can be seen of a part of a session: the calls that
  changed something and the lines of the log, in the order in
  which they came.
-/
structure Report where
  calls : List Event
  lines : List LogLine

/-
  What was put in front of a list since it had a given
  length, the oldest first.
-/
def Report.since
    {α : Type}
    (l : List α)
    (length : Nat) : List α :=
  (l.take (l.length - length)).reverse

/- What can be seen between two moments of a session. -/
def Session.report
    {E : Engine}
    (before after : Session E) : Report :=
  { calls :=
      (Report.since after.world.trace
        before.world.trace.length).filter
          (·.call.isEffect)
    lines :=
      Report.since after.log.lines before.log.lines.length }

end SqliteAccess
