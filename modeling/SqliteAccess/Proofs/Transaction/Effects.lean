import SqliteAccess.Proofs.Connection.Effects

/-
  Guards have no effect beyond running SQL and changing
  guards.

  The programs are characterized by:
    * `Transaction.commit_affects`
    * `Transaction.destroy_affects`
    * `Savepoint.release_affects`
    * `Savepoint.destroy_affects`
-/

namespace SqliteAccess

variable {E : Engine} {A : Effect → Prop}

open Attempt

------------------------------------------------------------
-- Connections of Guards
------------------------------------------------------------

namespace Connection

variable (c : Option ConnectionId)

theorem existing_affects :
    Quiet.Affects (E := E) A (existing c) := by
  cases c with
  | none => exact .pure none
  | some c =>
      apply Quiet.Affects.bind (.read _)
      exact fun _ => .ite (.pure _) (.pure _)

theorem requireExisting_affects :
    Affects (E := E) A (requireExisting c) := by
  apply Affects.bind (.lift (existing_affects c))
  intro found
  cases found with
  | some c => exact .pure c
  | none => exact .refuse _

theorem openTransaction_affects :
    Quiet.Affects (E := E) A (openTransaction c) := by
  apply Quiet.Affects.bind (existing_affects c)
  intro found
  cases found with
  | none => exact .pure _
  | some c =>
      apply Quiet.Affects.bind (.read _)
      intro conn
      cases conn.handle with
      | none => exact .pure _
      | some db =>
          apply Quiet.Affects.bind (.ask rfl)
          exact fun idle => .pure _

end Connection

section Guards

variable (hCompile : A .compile) (hGuard : A .guard)
variable (p source target : Place)

include hGuard

/- Changing guards changes nothing else. -/
theorem Guards.change_affects
    {f : World E → World E}
    (hOnly : ∀ w, ∃ transactions savepoints,
      f w = { w with transactions, savepoints }) :
    Quiet.Affects A (Quiet.update f) := by
  intro s
  rcases hOnly s.world with
    ⟨transactions, savepoints, hSame⟩
  apply Relation.ReflTransGen.single
  unfold Quiet.update
  rw [hSame]
  exact .guarded hGuard transactions savepoints

------------------------------------------------------------
-- Transactions
------------------------------------------------------------

namespace Transaction

theorem modify_affects (f : Transaction → Transaction) :
    Quiet.Affects (E := E) A
      (Quiet.update (World.modifyTransaction p f)) :=
  Guards.change_affects hGuard fun w =>
    ⟨_, w.savepoints, World.modifyTransaction_eq p f w⟩

theorem move_affects :
    Quiet.Affects (E := E) A (move source target) := by
  apply Guards.change_affects hGuard
  intro w
  unfold transfer
  cases w.transactions.get? source with
  | none => exact ⟨w.transactions, w.savepoints, rfl⟩
  | some t => exact ⟨_, w.savepoints, rfl⟩

include hCompile

theorem start_affects
    (c : ConnectionId)
    (type : TransactionType) :
    Affects (E := E) A (start c p type) := by
  apply Affects.bind
  · exact Connection.execute_affects c hCompile _
  intro _
  apply Affects.lift
  exact Guards.change_affects hGuard fun w =>
    ⟨_, w.savepoints, rfl⟩

theorem commit_affects :
    Affects (E := E) A (commit p) := by
  apply Affects.bind (.read _)
  intro t
  apply Affects.bind (.require _ _)
  intro _
  apply Affects.bind (Connection.requireExisting_affects _)
  intro c
  apply Affects.bind
  · exact Connection.execute_affects c hCompile _
  exact fun _ => .lift (modify_affects hGuard p ended)

theorem rollback_affects :
    Affects (E := E) A (rollback p) := by
  apply Affects.bind (.read _)
  intro t
  apply Affects.bind (.require _ _)
  intro _
  apply Affects.bind (Connection.requireExisting_affects _)
  intro c
  apply Affects.bind (.lift (modify_affects hGuard p ended))
  intro _
  apply Affects.bind (Connection.isAutocommit_affects c)
  intro idle
  apply Affects.ite
  · exact (Connection.execute_affects c hCompile _).map
  · exact .pure ()

theorem rollbackQuietly_affects :
    Quiet.Affects (E := E) A (rollbackQuietly p) := by
  apply Quiet.Affects.bind (.read _)
  intro t
  apply Quiet.Affects.bind (modify_affects hGuard p ended)
  intro _
  apply Quiet.Affects.bind
  · exact Connection.openTransaction_affects t.connection
  rintro ⟨found, open_⟩
  cases found with
  | none => exact .pure ()
  | some c =>
      cases open_ with
      | false => exact .note _ _ _
      | true =>
          apply Affects.tolerate
          · exact (Connection.execute_affects c hCompile _).map
          · exact fun e => .note _ _ _

theorem abandon_affects :
    Quiet.Affects (E := E) A (abandon p) := by
  apply Quiet.Affects.bind (.read _)
  intro t
  apply Quiet.Affects.ite
  · exact rollbackQuietly_affects hCompile hGuard p
  · exact .pure ()

theorem assign_affects :
    Quiet.Affects (E := E) A (assign source target) := by
  apply Quiet.Affects.ite (.pure ())
  apply Quiet.Affects.bind
  · exact abandon_affects hCompile hGuard target
  exact fun _ => move_affects hGuard source target

theorem destroy_affects :
    Quiet.Affects (E := E) A (destroy p) := by
  apply Quiet.Affects.bind
  · exact abandon_affects hCompile hGuard p
  intro _
  exact Guards.change_affects hGuard fun w =>
    ⟨_, w.savepoints, rfl⟩

end Transaction

------------------------------------------------------------
-- Savepoints
------------------------------------------------------------

namespace Savepoint

omit hCompile

theorem modify_affects (f : Savepoint → Savepoint) :
    Quiet.Affects (E := E) A
      (Quiet.update (World.modifySavepoint p f)) :=
  Guards.change_affects hGuard fun w =>
    ⟨w.transactions, _, World.modifySavepoint_eq p f w⟩

theorem move_affects :
    Quiet.Affects (E := E) A (move source target) := by
  apply Guards.change_affects hGuard
  intro w
  unfold transfer
  cases w.savepoints.get? source with
  | none => exact ⟨w.transactions, w.savepoints, rfl⟩
  | some s => exact ⟨w.transactions, _, rfl⟩

include hCompile

theorem start_affects
    (c : ConnectionId)
    (name : Bytes) :
    Affects (E := E) A (start c p name) := by
  apply Affects.bind (.require _ _)
  intro _
  apply Affects.bind
  · exact Connection.execute_affects c hCompile _
  intro _
  apply Affects.lift
  exact Guards.change_affects hGuard fun w =>
    ⟨w.transactions, _, rfl⟩

theorem release_affects :
    Affects (E := E) A (release p) := by
  apply Affects.bind (.read _)
  intro s
  apply Affects.bind (.require _ _)
  intro _
  apply Affects.bind (Connection.requireExisting_affects _)
  intro c
  apply Affects.bind
  · exact Connection.execute_affects c hCompile _
  exact fun _ => .lift (modify_affects hGuard p ended)

theorem rollback_affects :
    Affects (E := E) A (rollback p) := by
  apply Affects.bind (.read _)
  intro s
  apply Affects.bind (.require _ _)
  intro _
  apply Affects.bind (Connection.requireExisting_affects _)
  intro c
  apply Affects.bind
  · exact Connection.execute_affects c hCompile _
  intro _
  apply Affects.bind
  · exact Connection.execute_affects c hCompile _
  exact fun _ => .lift (modify_affects hGuard p ended)

theorem releaseQuietly_affects :
    Quiet.Affects (E := E) A (releaseQuietly p) := by
  apply Quiet.Affects.bind (.read _)
  intro s
  apply Quiet.Affects.bind (modify_affects hGuard p ended)
  intro _
  apply Quiet.Affects.bind
  · exact Connection.openTransaction_affects s.connection
  rintro ⟨found, open_⟩
  cases found with
  | none => exact .pure ()
  | some c =>
      cases open_ with
      | false => exact .pure ()
      | true =>
          apply Affects.tolerate
          · exact (Connection.execute_affects c hCompile _).map
          · exact fun e => .note _ _ _

theorem abandon_affects :
    Quiet.Affects (E := E) A (abandon p) := by
  apply Quiet.Affects.bind (.read _)
  intro s
  apply Quiet.Affects.ite
  · exact releaseQuietly_affects hCompile hGuard p
  · exact .pure ()

theorem assign_affects :
    Quiet.Affects (E := E) A (assign source target) := by
  apply Quiet.Affects.ite (.pure ())
  apply Quiet.Affects.bind
  · exact abandon_affects hCompile hGuard target
  exact fun _ => move_affects hGuard source target

theorem destroy_affects :
    Quiet.Affects (E := E) A (destroy p) := by
  apply Quiet.Affects.bind
  · exact abandon_affects hCompile hGuard p
  intro _
  exact Guards.change_affects hGuard fun w =>
    ⟨w.transactions, _, rfl⟩

end Savepoint

theorem Transaction.savepoint_affects
    (hCompile : A .compile)
    (t p : Place)
    (name : Bytes) :
    Affects (E := E) A (Transaction.savepoint t p name) := by
  apply Affects.bind (.read _)
  intro guard
  apply Affects.bind (.require _ _)
  intro _
  apply Affects.bind (Connection.requireExisting_affects _)
  intro c
  exact Savepoint.start_affects hCompile hGuard p c name

end Guards

end SqliteAccess
