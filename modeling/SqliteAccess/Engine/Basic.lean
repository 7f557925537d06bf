import SqliteAccess.Engine.Call

/-
  Database engines.

  An engine is any machine that answers calls.  Nothing is
  assumed about its answers, so what holds for every engine
  holds whatever a database does.

  Key definitions include:
    * `Engine`
    * `Trace`
    * `Trace.unfinalized`
-/

namespace SqliteAccess

------------------------------------------------------------
-- Engines
------------------------------------------------------------

/-
  A machine that answers every call, with a description of
  each result code.
-/
structure Engine where
  State : Type
  answer : (c : Call) → State → c.Answer × State
  describe : ResultCode → Bytes

------------------------------------------------------------
-- Traces
------------------------------------------------------------

/- The calls of a session, the latest first. -/
abbrev Trace :=
  List Event

namespace Trace

/-
  The statements that were compiled and not finalized since,
  the latest first.
-/
def unfinalized : Trace → List StatementHandle
  | [] => []
  | ⟨.prepare _ st, answer⟩ :: t =>
      if answer.created then st :: unfinalized t
      else unfinalized t
  | ⟨.finalize st, _⟩ :: t => (unfinalized t).erase st
  | _ :: t => unfinalized t

/- The unfinalized statements of one database. -/
def unfinalizedOn
    (t : Trace)
    (db : DatabaseHandle) : List StatementHandle :=
  (unfinalized t).filter (·.database = db)

end Trace

end SqliteAccess
