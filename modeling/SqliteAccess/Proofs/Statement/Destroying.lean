import SqliteAccess.Proofs.Session.Changes
import SqliteAccess.Proofs.Session.Running

/-
  How a statement is destroyed.

  Its rows expire, and its place is free again.  Only if it
  has a handle, the engine is called.

  Destroying is characterized by:
    * `Statement.destroy_of_free`
    * `Statement.destroy_of_finalized`
    * `Statement.destroy_of_live`
    * `Statement.destroy_finalize`
-/

namespace SqliteAccess

namespace Statement

variable {E : Engine} {s : Session E} {p : Place}
variable {r : Statement}

------------------------------------------------------------
-- Without a Handle
------------------------------------------------------------

/- Destroying nothing does nothing. -/
theorem destroy_of_free
    (hFree : s.world.statements.get? p = none) :
    destroy p s = ((), s) := by
  have hVacant : s.world.statement p = .vacant := by
    simp [World.statement, hFree]
  have hFinalized : finalize p s = ((), s) := by
    unfold finalize lookup
    rw [Quiet.run_bind]
    simp only [Quiet.read, hVacant, vacant, Quiet.update,
      World.modifyStatement_eq,
      Table.modify_eq_self _ hFree]
  unfold destroy
  rw [Quiet.run_bind, hFinalized]
  simp only [Quiet.update, hVacant, vacant,
    World.dropAnchor_eq, Table.erase?,
    Table.erase_eq_self hFree]

/- Without a handle, a statement and its rows are taken away. -/
theorem destroy_of_finalized
    (hFound : s.world.statements.get? p = some r)
    (hHandle : r.handle = none) :
    destroy p s =
      ((), { s with
        world :=
          { s.world with
            anchors := s.world.anchors.erase? r.anchor
            statements := s.world.statements.erase p } }) := by
  have hFinalized : finalize p s =
      ((), { s with
        world :=
          { s.world with
            statements := s.world.statements.put p
              { r with state := .finalized } } }) := by
    unfold finalize lookup
    rw [Quiet.run_bind]
    simp only [Quiet.read, World.statement_of_get? hFound,
      hHandle, Quiet.update, World.modifyStatement_eq,
      Table.modify_eq_put _ hFound]
  unfold destroy
  rw [Quiet.run_bind, hFinalized]
  simp only [Quiet.update, World.statement, Table.get?_put,
    if_true, Option.getD_some, World.dropAnchor_eq,
    Table.erase_put_self]

------------------------------------------------------------
-- With a Handle
------------------------------------------------------------

/-
  With a handle, it is struck out at its connection as well,
  and the engine is called once.
-/
theorem destroy_of_live
    {st : StatementHandle}
    (hFound : s.world.statements.get? p = some r)
    (hHandle : r.handle = some st) :
    ∃ engine event log, (destroy p s).2 =
      { world :=
          { s.world with
            engine
            trace := event :: s.world.trace
            connections := s.world.connections.modify?
              r.connection (·.removeStatement p)
            anchors := s.world.anchors.erase? r.anchor
            statements := s.world.statements.erase p }
        log } := by
  obtain ⟨engine, event, log, hFinalized⟩ :
      ∃ engine event log, (finalize p s).2 =
        { world :=
            { s.world with
              engine
              trace := event :: s.world.trace
              connections := s.world.connections.modify?
                r.connection (·.removeStatement p)
              statements :=
                s.world.statements.put p r.ended }
          log } := by
    unfold finalize lookup
    rw [Quiet.run_bind]
    simp only [Quiet.read, World.statement_of_get? hFound,
      hHandle]
    rw [Quiet.run_bind, Quiet.run_bind, Quiet.run_bind]
    simp only [Quiet.update, World.modifyLinked_eq,
      World.modifyStatement_eq, Table.modify_eq_put _ hFound]
    split
    case isTrue => exact ⟨_, _, _, rfl⟩
    case isFalse => exact ⟨_, _, _, rfl⟩
  refine ⟨engine, event, log, ?_⟩
  unfold destroy
  rw [Quiet.run_bind, hFinalized]
  simp only [Quiet.update, World.statement, Table.get?_put,
    if_true, Option.getD_some, World.dropAnchor_eq,
    Table.erase_put_self, ended]

------------------------------------------------------------
-- After Finalizing
------------------------------------------------------------

/- What is finalized has no handle. -/
theorem finalize_handle
    (p : Place)
    (s : Session E) :
    ((finalize p s).2.world.statement p).handle = none := by
  cases hFound : s.world.statements.get? p with
  | none =>
      unfold finalize lookup
      rw [Quiet.run_bind]
      simp [Quiet.read, Quiet.update, vacant,
        World.statement, World.modifyStatement_eq, hFound]
  | some r =>
      have hIs := World.statement_of_get? hFound
      unfold finalize lookup
      rw [Quiet.run_bind]
      cases hHandle : r.handle with
      | none =>
          simp only [Quiet.read, Quiet.update, hIs, hHandle]
          rw [World.statement_modifyStatement hFound]
          exact hHandle
      | some st =>
          simp only [Quiet.read, hIs, hHandle]
          rw [Quiet.run_bind, Quiet.run_bind, Quiet.run_bind]
          have hStruck : (s.world.modifyLinked r.connection
              (·.removeStatement p)).statements.get? p =
                some r := by
            rwa [World.modifyLinked_eq]
          have hEnded : ((World.modifyStatement p ended
              (s.world.modifyLinked r.connection
                (·.removeStatement p))).statement p).handle =
              none := by
            rw [World.statement_modifyStatement hStruck]
            rfl
          split <;> exact hEnded

/- Without a handle, nothing is finalized any more. -/
theorem destroy_of_no_handle
    (hNone : (s.world.statement p).handle = none) :
    destroy p s =
      Quiet.update (fun w =>
        let w := w.dropAnchor (w.statement p).anchor
        { w with statements := w.statements.erase p }) s := by
  cases hFound : s.world.statements.get? p with
  | none =>
      rw [destroy_of_free hFound]
      simp [Quiet.update, World.statement, hFound, vacant,
        World.dropAnchor_eq, Table.erase?,
        Table.erase_eq_self hFound]
  | some r =>
      rw [World.statement_of_get? hFound] at hNone
      rw [destroy_of_finalized hFound hNone]
      simp [Quiet.update, World.statement_of_get? hFound,
        World.dropAnchor_eq]

/-
  Whether a statement is finalized before it is destroyed
  makes no difference.
-/
theorem destroy_finalize
    (p : Place)
    (s : Session E) :
    destroy p (finalize p s).2 = destroy p s := by
  rw [destroy_of_no_handle (finalize_handle p s)]
  rfl

end Statement

end SqliteAccess
