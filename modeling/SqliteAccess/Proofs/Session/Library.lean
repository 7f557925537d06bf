import SqliteAccess.Proofs.Session.Keeping
import SqliteAccess.Session.Library

/-
  Starting and stopping the engine, which no handle depends
  on.

  The programs are characterized by:
    * `Library.start_keeps`
    * `Library.stop_keeps`
    * `Library.hold_keeps`
    * `Library.release_keeps`
-/

namespace SqliteAccess

namespace Library

variable {E : Engine} {A : Part → Prop} {P : Custody → Prop}

/- What is known about the use of the engine may change. -/
theorem modify_keeps (f : Library → Library) :
    Quiet.Keeps (E := E) A P
      (Quiet.update (World.modifyLibrary f)) :=
  .aside fun w =>
    ⟨w.transactions, w.savepoints, w.rows, f w.library, rfl⟩

------------------------------------------------------------
-- Starting
------------------------------------------------------------

theorem start_keeps :
    Attempt.Keeps (E := E) A P start := by
  apply Attempt.Keeps.bind (.lift (modify_keeps _))
  intro _
  apply Attempt.Keeps.bind (.read _)
  intro started
  apply Attempt.Keeps.ite
  case hElse => exact fun _ => .pure _
  intro _
  apply Attempt.Keeps.bind (.lift (.askGlobal rfl))
  intro code
  apply Attempt.Keeps.optional
  case hFirst =>
    intro hRest
    exact Attempt.Keeps.bind (.fail _) fun _ => hRest
  apply Attempt.Keeps.bind (.lift (modify_keeps _))
  intro _
  apply Attempt.Keeps.bind (.lift (.askGlobal rfl))
  intro version
  exact .lift (.note _ _ _)

theorem hold_keeps :
    Attempt.Keeps (E := E) A P hold := by
  apply Attempt.Keeps.bind start_keeps
  intro _
  exact .lift (modify_keeps _)

------------------------------------------------------------
-- Stopping
------------------------------------------------------------

theorem stopNow_keeps :
    Quiet.Keeps (E := E) A P stopNow := by
  apply Quiet.Keeps.bind (.askGlobal rfl)
  intro code
  apply Quiet.Keeps.ite
  · intro _
    apply Quiet.Keeps.bind (.note _ _ _)
    exact fun _ => .pure _
  · intro _
    apply Quiet.Keeps.bind (modify_keeps _)
    intro _
    apply Quiet.Keeps.bind (.note _ _ _)
    exact fun _ => .pure _

theorem stop_keeps :
    Quiet.Keeps (E := E) A P stop := by
  apply Quiet.Keeps.bind (.read _)
  intro library
  apply Quiet.Keeps.ite
  · intro _
    apply Quiet.Keeps.bind (modify_keeps _)
    exact fun _ => .pure _
  · intro _
    apply Quiet.Keeps.ite
    · intro _
      apply Quiet.Keeps.bind (modify_keeps _)
      exact fun _ => .pure _
    · exact fun _ => stopNow_keeps

theorem release_keeps :
    Quiet.Keeps (E := E) A P release := by
  apply Quiet.Keeps.bind (modify_keeps _)
  intro _
  apply Quiet.Keeps.bind (.read _)
  intro library
  apply Quiet.Keeps.ite
  · intro _
    apply Quiet.Keeps.bind stop_keeps
    exact fun _ => .pure _
  · exact fun _ => .pure _

end Library

end SqliteAccess
