import SqliteAccess.Connection.Pragma
import SqliteAccess.Proofs.Statement.Binding
import SqliteAccess.Proofs.Statement.Columns
import SqliteAccess.Proofs.Statement.Lifecycle

/-
  Running SQL text on a connection.  Each text has a
  temporary statement of its own, which is gone afterwards.

  The programs are characterized by:
    * `Connection.execute_keeps`
    * `Connection.executeBatch_keeps`
    * `Connection.tableExists_keeps`
    * `Connection.pragma_keeps`
    * `Connection.setPragma_keeps`
-/

namespace SqliteAccess

namespace Connection

variable {E : Engine} {A : Part → Prop} {c : ConnectionId}

open Attempt

------------------------------------------------------------
-- Statements
------------------------------------------------------------

theorem execute_keeps
    (hPart : A (.statement .scratch))
    (sql : Bytes) :
    Keeps (E := E) A Custody.Idle (execute c sql) := by
  apply Statement.within_keeps hPart
  apply Keeps.bind (.read _)
  intro s
  apply Keeps.bind (.require _ _)
  intro _
  exact Statement.execute_keeps hPart

theorem executeFirst_keeps
    (hPart : A (.statement .scratch))
    (sql : Bytes) :
    Keeps (E := E) A Custody.Idle (executeFirst c sql) := by
  apply Statement.within_keeps hPart
  apply Keeps.bind (.read _)
  intro s
  apply Keeps.bind (Statement.execute_keeps hPart)
  intro _
  exact (Keeps.lift (Statement.finalize_keeps hPart)).map

theorem executeUpTo_keeps
    (hPart : A (.statement .scratch))
    (n : Nat)
    (sql : Bytes) :
    Keeps (E := E) A Custody.Idle (executeUpTo c n sql) := by
  induction n generalizing sql with
  | zero => exact .throw _
  | succ n ih =>
      apply Keeps.ite
      · intro _
        apply Keeps.bind (executeFirst_keeps hPart _)
        intro consumed
        exact ih _
      · intro _
        exact .pure _

theorem executeBatch_keeps
    (hPart : A (.statement .scratch))
    (sql : Bytes) :
    Keeps (E := E) A Custody.Idle (executeBatch c sql) := by
  apply Keeps.bind (.read _)
  intro patience
  exact executeUpTo_keeps hPart patience sql

------------------------------------------------------------
-- Queries
------------------------------------------------------------

theorem tableExists_keeps
    (hPart : A (.statement .scratch))
    (name : Bytes) :
    Keeps (E := E) A Custody.Idle (tableExists c name) := by
  apply Statement.within_keeps hPart
  apply Keeps.bind
    ((Statement.bindText_binds name).keeps hPart)
  intro _
  exact Statement.next_keeps hPart

theorem pragma_keeps
    (hPart : A (.statement .scratch))
    (name : Bytes) :
    Keeps (E := E) A Custody.Idle (pragma c name) := by
  apply Keeps.bind (.accept _)
  intro _
  apply Statement.within_keeps hPart
  apply Keeps.bind (Statement.step_keeps hPart)
  intro result
  apply Keeps.ite
  · exact fun _ => .pure _
  · intro _
    apply Keeps.bind Statement.columnCount_keeps
    intro count
    apply Keeps.ite
    · exact fun _ => .pure _
    · exact fun _ =>
        Statement.keeps_of_reads fun _ =>
          Statement.columnValue_leads

theorem setPragma_keeps
    (hPart : A (.statement .scratch))
    (name : Bytes)
    (v : Value) :
    Keeps (E := E) A Custody.Idle (setPragma c name v) := by
  apply Keeps.bind (.accept _)
  intro _
  apply Keeps.bind (.accept _)
  intro literal
  apply Statement.within_keeps hPart
  apply Keeps.bind (.read _)
  intro patience
  exact Statement.drain_keeps hPart patience

end Connection

end SqliteAccess
