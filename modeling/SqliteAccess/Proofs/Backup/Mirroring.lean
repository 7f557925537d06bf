import SqliteAccess.Backup.Copying
import SqliteAccess.Proofs.Statement.Mirroring

/-
  Backups of sessions that mirror each other.

  A backup does the same in both sessions; it is kept at the
  same place.

  The backups are characterized by:
    * `Backup.start_mirrors`
    * `Backup.step_mirrors`
    * `Backup.finish_mirrors`
    * `Backup.detach_mirrors`
    * `Backup.copyAll_mirrors`
-/

namespace SqliteAccess

variable {E : Engine} {m : Mirror}

/- Listing a backup has nothing to do with statements. -/
theorem Connection.Mirrors.addBackup
    {c c' : Connection}
    (h : Connection.Mirrors m c c')
    (p : Place) :
    Connection.Mirrors m (c.addBackup p)
      (c'.addBackup p) :=
  { h with
    backups := by simp only [Connection.addBackup, h.backups] }

theorem Connection.Mirrors.removeBackup
    {c c' : Connection}
    (h : Connection.Mirrors m c c')
    (p : Place) :
    Connection.Mirrors m (c.removeBackup p)
      (c'.removeBackup p) :=
  { h with
    backups := by
      simp only [Connection.removeBackup, h.backups] }

namespace Backup

open Quiet Attempt

variable (p : Place)

theorem lookup_mirrors :
    Quiet.Mirrors (E := E) m Eq (lookup p) (lookup p) := by
  apply Quiet.Mirrors.read
  intro w w' h
  unfold World.backup
  rw [h.backups]

theorem modify_mirrors (f : Backup → Backup) :
    Quiet.Mirrors (E := E) m Eq
      (update (World.modifyBackup p f))
      (update (World.modifyBackup p f)) := by
  apply Quiet.Mirrors.update
  intro w w' h
  rw [World.modifyBackup_eq, World.modifyBackup_eq]
  exact { h with backups := by simp only [h.backups] }

theorem unlist_mirrors (c : Option ConnectionId) :
    Quiet.Mirrors (E := E) m Eq
      (update (World.modifyLinked c (·.removeBackup p)))
      (update (World.modifyLinked c (·.removeBackup p))) := by
  apply Quiet.Mirrors.update
  intro w w' h
  rw [World.modifyLinked_eq, World.modifyLinked_eq]
  exact
    { h with
      connections :=
        h.connections.modify? c (·.removeBackup p) }

------------------------------------------------------------
-- Starting and Copying
------------------------------------------------------------

theorem register_mirrors
    (bk : BackupHandle)
    (source destination : ConnectionId) :
    Quiet.Mirrors (E := E) m Eq
      (update (register p bk source destination))
      (update (register p bk source destination)) := by
  apply Quiet.Mirrors.update
  intro w w' h
  rw [register_eq, register_eq]
  exact
    { h with
      connections :=
        (h.connections.modify source
          (·.addBackup p)).modify destination (·.addBackup p)
      issued := by simp only [h.issued]
      backups := by simp only [h.backups] }

theorem start_mirrors
    (source destination : ConnectionId)
    (first second : Bytes) :
    Attempt.Mirrors (E := E) m Eq
      (start p source destination first second)
      (start p source destination first second) := by
  apply Attempt.Mirrors.andThen (.require _ _)
  intro _
  apply Attempt.Mirrors.andThen
    (Connection.requireOpen_mirrors source _)
  intro sourceDb
  apply Attempt.Mirrors.andThen
    (Connection.requireOpen_mirrors destination _)
  intro db
  apply Attempt.Mirrors.andThen
  · exact .read fun h =>
      congrArg Issued.backups h.issued.symm
  · intro issued
    apply Attempt.Mirrors.andThen
      (.invoke (.startBackup db _ sourceDb _ _))
    intro created
    apply Attempt.Mirrors.ite
    · exact .lift (register_mirrors p _ source destination)
    · apply Attempt.Mirrors.andThen (.invoke (.errorCode db))
      intro code
      exact .andThen (.lift (handleError_mirrors _ _ _ _))
        fun e => .throw _

theorem step_mirrors (pages : Int) :
    Attempt.Mirrors (E := E) m Eq (step p pages)
      (step p pages) := by
  apply Attempt.Mirrors.andThen (.lift (lookup_mirrors p))
  intro b
  apply Attempt.Mirrors.ite (.pure rfl)
  cases b.handle with
  | none => exact .refuse _
  | some bk =>
      apply Attempt.Mirrors.andThen
        (.invoke (.stepBackup bk pages))
      intro code
      apply Attempt.Mirrors.ite
      · exact .andThen (.lift (modify_mirrors p _))
          fun _ => .pure rfl
      · exact .ite (.pure rfl) (.throw _)

theorem remaining_mirrors :
    Attempt.Mirrors (E := E) m Eq (remaining p)
      (remaining p) := by
  apply Attempt.Mirrors.andThen (.lift (lookup_mirrors p))
  intro b
  cases b.handle with
  | some bk => exact .invoke (.remainingPages bk)
  | none => exact .map (.require _ _)

theorem pageCount_mirrors :
    Attempt.Mirrors (E := E) m Eq (pageCount p)
      (pageCount p) := by
  apply Attempt.Mirrors.andThen (.lift (lookup_mirrors p))
  intro b
  cases b.handle with
  | some bk => exact .invoke (.pageCount bk)
  | none => exact .refuse _

------------------------------------------------------------
-- Finishing
------------------------------------------------------------

theorem finish_mirrors :
    Quiet.Mirrors (E := E) m Eq (finish p) (finish p) := by
  apply Quiet.Mirrors.andThen (lookup_mirrors p)
  intro b
  cases b.handle with
  | none => exact .pure rfl
  | some bk =>
      apply Quiet.Mirrors.andThen (unlist_mirrors p _)
      intro _
      apply Quiet.Mirrors.andThen (unlist_mirrors p _)
      intro _
      apply Quiet.Mirrors.andThen (modify_mirrors p _)
      intro _
      apply Quiet.Mirrors.andThen (.invoke (.finishBackup bk))
      exact fun code => .ite (.note _ _ _) (.pure rfl)

theorem detach_mirrors (closing : ConnectionId) :
    Quiet.Mirrors (E := E) m Eq (detach closing p)
      (detach closing p) := by
  apply Quiet.Mirrors.bind
    (Connection.lookup_mirrors closing)
  intro conn conn' hMirrors
  rw [hMirrors.path]
  apply Quiet.Mirrors.andThen (.note _ _ _)
  intro _
  exact .andThen (modify_mirrors p _)
    fun _ => finish_mirrors p

theorem destroy_mirrors :
    Quiet.Mirrors (E := E) m Eq (destroy p) (destroy p) := by
  apply Quiet.Mirrors.andThen (finish_mirrors p)
  intro _
  apply Quiet.Mirrors.update
  intro w w' h
  exact { h with backups := by simp only [h.backups] }

theorem copyAll_mirrors
    (source destination : ConnectionId) :
    Attempt.Mirrors (E := E) m Eq
      (copyAll source destination)
      (copyAll source destination) := by
  apply Attempt.Mirrors.andThen
    (start_mirrors .scratch source destination _ _)
  intro _
  apply Attempt.Mirrors.ensuring _ (destroy_mirrors .scratch)
  exact .andThen (step_mirrors .scratch (-1))
    fun _ => .lift (finish_mirrors .scratch)

end Backup

end SqliteAccess
