import SqliteAccess.Proofs.Transaction.Guard
import SqliteAccess.Transaction.Nested

/-
  Guards of savepoints.  They need a temporary statement at
  most.

  The programs are characterized by:
    * `Savepoint.release_keeps`
    * `Savepoint.rollback_keeps`
    * `Savepoint.destroy_keeps`
    * `Transaction.savepoint_keeps`
-/

namespace SqliteAccess

variable {E : Engine} {A : Part → Prop}
variable {c : ConnectionId} {p source target : Place}

open Attempt

namespace Savepoint

------------------------------------------------------------
-- Making and Ending
------------------------------------------------------------

theorem modify_keeps
    {P : Custody → Prop}
    (p : Place)
    (f : Savepoint → Savepoint) :
    Quiet.Keeps (E := E) A P
      (Quiet.update (World.modifySavepoint p f)) := by
  apply Quiet.Keeps.aside
  intro w
  rw [World.modifySavepoint_eq]
  exact ⟨w.transactions, _, w.rows, w.library, rfl⟩

theorem start_keeps
    (hPart : A (.statement .scratch))
    (name : Bytes) :
    Keeps (E := E) A Custody.Idle (start c p name) := by
  apply Keeps.bind (.require _ _)
  intro _
  apply Keeps.bind (Connection.execute_keeps hPart _)
  intro _
  apply Keeps.lift
  exact .aside fun w =>
    ⟨w.transactions, _, w.rows, w.library, rfl⟩

theorem release_keeps
    (hPart : A (.statement .scratch)) :
    Keeps (E := E) A Custody.Idle (release p) := by
  apply Keeps.bind (.read _)
  intro s
  apply Keeps.bind (.require _ _)
  intro _
  apply Keeps.bind (Connection.requireExisting_keeps _)
  intro c
  apply Keeps.bind (Connection.execute_keeps hPart _)
  intro _
  exact .lift (modify_keeps _ _)

theorem rollback_keeps
    (hPart : A (.statement .scratch)) :
    Keeps (E := E) A Custody.Idle (rollback p) := by
  apply Keeps.bind (.read _)
  intro s
  apply Keeps.bind (.require _ _)
  intro _
  apply Keeps.bind (Connection.requireExisting_keeps _)
  intro c
  apply Keeps.bind (Connection.execute_keeps hPart _)
  intro _
  apply Keeps.bind (Connection.execute_keeps hPart _)
  intro _
  exact .lift (modify_keeps _ _)

theorem releaseQuietly_keeps
    (hPart : A (.statement .scratch)) :
    Quiet.Keeps (E := E) A Custody.Idle
      (releaseQuietly p) := by
  apply Quiet.Keeps.bind (.read _)
  intro s
  apply Quiet.Keeps.bind (modify_keeps _ _)
  intro _
  apply Quiet.Keeps.bind (Connection.openTransaction_keeps _)
  rintro ⟨found, hasOne⟩
  cases found with
  | none => exact .pure _
  | some c =>
      cases hasOne with
      | false => exact .pure _
      | true =>
          apply Keeps.tolerate
          · exact (Connection.execute_keeps hPart _).map
          · exact fun e => .note _ _ _

------------------------------------------------------------
-- Moving and Destroying
------------------------------------------------------------

theorem move_keeps
    {P : Custody → Prop}
    (source target : Place) :
    Quiet.Keeps (E := E) A P (move source target) := by
  apply Quiet.Keeps.aside
  intro w
  unfold transfer
  cases w.savepoints.get? source with
  | none =>
      exact ⟨w.transactions, w.savepoints, w.rows, w.library,
        rfl⟩
  | some s =>
      exact ⟨w.transactions, _, w.rows, w.library, rfl⟩

theorem abandon_keeps
    (hPart : A (.statement .scratch)) :
    Quiet.Keeps (E := E) A Custody.Idle (abandon p) := by
  apply Quiet.Keeps.bind (.read _)
  intro s
  apply Quiet.Keeps.ite
  · exact fun _ => releaseQuietly_keeps hPart
  · exact fun _ => .pure _

theorem assign_keeps
    (hPart : A (.statement .scratch)) :
    Quiet.Keeps (E := E) A Custody.Idle
      (assign source target) := by
  apply Quiet.Keeps.ite
  · exact fun _ => .pure _
  · intro _
    apply Quiet.Keeps.bind (abandon_keeps hPart)
    exact fun _ => move_keeps source target

theorem destroy_keeps
    (hPart : A (.statement .scratch)) :
    Quiet.Keeps (E := E) A Custody.Idle (destroy p) := by
  apply Quiet.Keeps.bind (abandon_keeps hPart)
  intro _
  exact .aside fun w =>
    ⟨w.transactions, _, w.rows, w.library, rfl⟩

end Savepoint

namespace Transaction

theorem savepoint_keeps
    {t : Place}
    (hPart : A (.statement .scratch))
    (name : Bytes) :
    Keeps (E := E) A Custody.Idle (savepoint t p name) := by
  apply Keeps.bind (.read _)
  intro guard
  apply Keeps.bind (.require _ _)
  intro _
  apply Keeps.bind (Connection.requireExisting_keeps _)
  intro c
  exact Savepoint.start_keeps hPart name

end Transaction

end SqliteAccess
