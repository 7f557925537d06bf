import SqliteAccess.Proofs.Statement.Effects

/-
  Backups have no effect at all.

  The programs are characterized by:
    * `Backup.start_affects`
    * `Backup.step_affects`
    * `Backup.destroy_affects`
    * `Backup.copyAll_affects`
-/

namespace SqliteAccess

variable {E : Engine} {A : Effect → Prop}

open Attempt

namespace Backup

variable (p : Place)

------------------------------------------------------------
-- Starting
------------------------------------------------------------

/- Listing a backup is an edit. -/
theorem register_edited
    (bk : BackupHandle)
    (source destination : ConnectionId)
    (w : World E) :
    w.Edited (register p bk source destination w) := by
  have hList : ∀ (w : World E) (c : ConnectionId),
      w.Edited (w.modifyConnection c (·.addBackup p)) :=
    fun w c => .connection w c fun _ => .inr rfl
  have hBoth := (hList w source).trans (hList _ destination)
  simp only [World.modifyConnection_eq] at hBoth
  rw [register_eq]
  exact hBoth.trans (.apart _ _ _ _ _ rfl)

theorem start_affects
    (source destination : ConnectionId)
    (sourceSchema destinationSchema : Bytes) :
    Affects (E := E) A
      (start p source destination sourceSchema
        destinationSchema) := by
  apply Affects.bind (.require _ _)
  intro _
  apply Affects.bind
  · exact Connection.requireOpen_affects source _
  intro sourceDb
  apply Affects.bind
  · exact Connection.requireOpen_affects destination _
  intro db
  apply Affects.bind (.read _)
  intro issued
  apply Affects.bind (.ask rfl)
  intro created
  apply Affects.ite
  · exact .lift (.edit (register_edited p _ _ _))
  · apply Affects.bind (.ask rfl)
    intro code
    apply Affects.bind (.lift (handleError_affects _ _ _ _))
    exact fun e => .fail e

------------------------------------------------------------
-- Copying
------------------------------------------------------------

theorem step_affects (pages : Int) :
    Affects (E := E) A (step p pages) := by
  apply Affects.bind (.read _)
  intro b
  apply Affects.ite (.pure true)
  cases b.handle with
  | none => exact .refuse _
  | some bk =>
      apply Affects.bind (.ask rfl)
      intro code
      apply Affects.ite
      · exact (Affects.lift (.backup p _)).map
      · exact .ite (.pure false) (.fail _)

theorem remaining_affects :
    Affects (E := E) A (remaining p) := by
  apply Affects.bind (.read _)
  intro b
  cases b.handle with
  | some bk => exact .ask rfl
  | none =>
      apply Affects.bind (.require _ _)
      exact fun _ => .pure 0

theorem pageCount_affects :
    Affects (E := E) A (pageCount p) := by
  apply Affects.bind (.read _)
  intro b
  cases b.handle with
  | some bk => exact .ask rfl
  | none => exact .refuse _

------------------------------------------------------------
-- Finishing
------------------------------------------------------------

theorem finish_affects :
    Quiet.Affects (E := E) A (finish p) := by
  apply Quiet.Affects.bind (.read _)
  intro b
  cases b.handle with
  | none => exact .pure ()
  | some bk =>
      apply Quiet.Affects.bind
      · exact .edit fun w => .linked w _ fun _ => rfl
      intro _
      apply Quiet.Affects.bind
      · exact .edit fun w => .linked w _ fun _ => rfl
      intro _
      apply Quiet.Affects.bind (.backup p _)
      intro _
      apply Quiet.Affects.bind (.ask rfl)
      intro code
      exact .ite (.note _ _ _) (.pure ())

theorem detach_affects (closing : ConnectionId) :
    Quiet.Affects (E := E) A (detach closing p) := by
  apply Quiet.Affects.bind (.read _)
  intro conn
  apply Quiet.Affects.bind (.note _ _ _)
  intro _
  apply Quiet.Affects.bind (.backup p _)
  exact fun _ => finish_affects p

theorem destroy_affects :
    Quiet.Affects (E := E) A (destroy p) := by
  apply Quiet.Affects.bind (finish_affects p)
  exact fun _ => .edit fun w => .apart w _ _ _ _ rfl

theorem copyAll_affects (source destination : ConnectionId) :
    Affects (E := E) A (copyAll source destination) := by
  apply Affects.bind
  · exact start_affects .scratch source destination _ _
  intro _
  apply Affects.ensuring
  case hCleanup => exact destroy_affects .scratch
  apply Affects.bind (step_affects .scratch _)
  exact fun _ => .lift (finish_affects .scratch)

end Backup

end SqliteAccess
