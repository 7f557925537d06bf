import SqliteAccess.Proofs.Connection.Mirroring
import SqliteAccess.Transaction.Nested

/-
  Guards of sessions that mirror each other.

  A guard does the same in both sessions; it is kept at the
  same place.

  The guards are characterized by:
    * `Transaction.start_mirrors`
    * `Transaction.commit_mirrors`
    * `Transaction.destroy_mirrors`
    * `Transaction.within_mirrors`
    * `Savepoint.start_mirrors`
    * `Savepoint.rollback_mirrors`
    * `Savepoint.destroy_mirrors`
-/

namespace SqliteAccess

variable {E : Engine} {α β : Type} {m : Mirror}

open Quiet Attempt

------------------------------------------------------------
-- Connections of Guards
------------------------------------------------------------

namespace Connection

theorem existing_mirrors (c : Option ConnectionId) :
    Quiet.Mirrors (E := E) m Eq (existing c)
      (existing c) := by
  cases c with
  | none => exact .pure rfl
  | some c =>
      apply Quiet.Mirrors.andThen
      · exact .read fun h => (h.connections c).isSome.symm
      · exact fun found => .ite (.pure rfl) (.pure rfl)

theorem requireExisting_mirrors (c : Option ConnectionId) :
    Attempt.Mirrors (E := E) m Eq (requireExisting c)
      (requireExisting c) := by
  apply Attempt.Mirrors.andThen (.lift (existing_mirrors c))
  intro found
  cases found with
  | none => exact .refuse _
  | some c => exact .pure rfl

theorem openTransaction_mirrors (c : Option ConnectionId) :
    Quiet.Mirrors (E := E) m Eq (openTransaction c)
      (openTransaction c) := by
  apply Quiet.Mirrors.andThen (existing_mirrors c)
  intro found
  cases found with
  | none => exact .pure rfl
  | some c =>
      apply Quiet.Mirrors.bind (lookup_mirrors c)
      intro conn conn' hMirrors
      rw [hMirrors.handle]
      cases conn.handle with
      | none => exact .pure rfl
      | some db =>
          exact .andThen (.invoke (.autocommit db))
            fun idle => .pure rfl

end Connection

------------------------------------------------------------
-- Transactions
------------------------------------------------------------

namespace Transaction

variable (p q : Place)

theorem lookup_mirrors :
    Quiet.Mirrors (E := E) m Eq (lookup p) (lookup p) := by
  apply Quiet.Mirrors.read
  intro w w' h
  rw [h.transactions]

/- Transactions are changed in both sessions. -/
theorem update_mirrors
    {f : World E → World E}
    (g : Table Place Transaction → Table Place Transaction)
    (hChange : ∀ w, f w =
      { w with transactions := g w.transactions }) :
    Quiet.Mirrors m Eq (update f) (update f) := by
  apply Quiet.Mirrors.update
  intro w w' h
  rw [hChange, hChange]
  exact { h with transactions := congrArg g h.transactions }

theorem modify_mirrors (f : Transaction → Transaction) :
    Quiet.Mirrors (E := E) m Eq
      (update (World.modifyTransaction p f))
      (update (World.modifyTransaction p f)) :=
  update_mirrors (·.modify p f)
    (World.modifyTransaction_eq p f)

theorem start_mirrors
    (hPatient : m.Patient)
    (c : ConnectionId)
    (type : TransactionType) :
    Attempt.Mirrors (E := E) m Eq (start c p type)
      (start c p type) :=
  .andThen (Connection.execute_mirrors hPatient c _)
    fun _ => .lift (update_mirrors (·.put p _) fun _ => rfl)

theorem commit_mirrors
    (hPatient : m.Patient) :
    Attempt.Mirrors (E := E) m Eq (commit p) (commit p) := by
  apply Attempt.Mirrors.andThen (.lift (lookup_mirrors p))
  intro t
  apply Attempt.Mirrors.andThen (.require _ _)
  intro _
  apply Attempt.Mirrors.andThen
    (Connection.requireExisting_mirrors _)
  intro c
  exact .andThen (Connection.execute_mirrors hPatient c _)
    fun _ => .lift (modify_mirrors p _)

theorem rollback_mirrors
    (hPatient : m.Patient) :
    Attempt.Mirrors (E := E) m Eq (rollback p)
      (rollback p) := by
  apply Attempt.Mirrors.andThen (.lift (lookup_mirrors p))
  intro t
  apply Attempt.Mirrors.andThen (.require _ _)
  intro _
  apply Attempt.Mirrors.andThen
    (Connection.requireExisting_mirrors _)
  intro c
  apply Attempt.Mirrors.andThen (.lift (modify_mirrors p _))
  intro _
  apply Attempt.Mirrors.andThen
    (Connection.isAutocommit_mirrors c)
  intro idle
  exact .ite
    (.map (Connection.execute_mirrors hPatient c _))
    (.pure rfl)

theorem rollbackQuietly_mirrors
    (hPatient : m.Patient) :
    Quiet.Mirrors (E := E) m Eq (rollbackQuietly p)
      (rollbackQuietly p) := by
  apply Quiet.Mirrors.andThen (lookup_mirrors p)
  intro t
  apply Quiet.Mirrors.andThen (modify_mirrors p _)
  intro _
  apply Quiet.Mirrors.andThen
    (Connection.openTransaction_mirrors _)
  rintro ⟨c, busy⟩
  cases c with
  | none => exact .pure rfl
  | some c =>
      cases busy with
      | false => exact .note _ _ _
      | true =>
          exact .tolerate
            (.map (Connection.execute_mirrors hPatient c _))
            fun e => .note _ _ _

/- What is taken from one table to another place of it. -/
theorem transfer_mirrors :
    Quiet.Mirrors (E := E) m Eq (update (transfer p q))
      (update (transfer p q)) := by
  apply update_mirrors fun t =>
    (t.get? p).elim t fun r => (t.put q r).put p r.emptied
  intro w
  unfold transfer
  cases w.transactions.get? p <;> rfl

theorem abandon_mirrors
    (hPatient : m.Patient) :
    Quiet.Mirrors (E := E) m Eq (abandon p) (abandon p) :=
  .andThen (lookup_mirrors p) fun _ =>
    .ite (rollbackQuietly_mirrors p hPatient) (.pure rfl)

theorem assign_mirrors
    (hPatient : m.Patient) :
    Quiet.Mirrors (E := E) m Eq (assign p q)
      (assign p q) :=
  .ite (.pure rfl) (.andThen (abandon_mirrors q hPatient)
    fun _ => transfer_mirrors p q)

theorem destroy_mirrors
    (hPatient : m.Patient) :
    Quiet.Mirrors (E := E) m Eq (destroy p) (destroy p) :=
  .andThen (abandon_mirrors p hPatient)
    fun _ => update_mirrors (·.erase p) fun _ => rfl

theorem within_mirrors
    {Q : α → β → Prop}
    {work : Place → Attempt E α}
    {work' : Place → Attempt E β}
    (hPatient : m.Patient)
    (c : ConnectionId)
    (hWork :
      Attempt.Mirrors m Q (work .scratch) (work' .scratch)) :
    Attempt.Mirrors m Q (within c work)
      (within c work') := by
  apply Attempt.Mirrors.andThen
    (start_mirrors .scratch hPatient c .deferred)
  intro _
  apply Attempt.Mirrors.ensuring _
    (destroy_mirrors .scratch hPatient)
  apply Attempt.Mirrors.bind hWork
  intro result result' hResults
  exact .andThen (commit_mirrors .scratch hPatient)
    fun _ => .pure hResults

end Transaction

------------------------------------------------------------
-- Savepoints
------------------------------------------------------------

namespace Savepoint

variable (p q : Place)

theorem lookup_mirrors :
    Quiet.Mirrors (E := E) m Eq (lookup p) (lookup p) := by
  apply Quiet.Mirrors.read
  intro w w' h
  rw [h.savepoints]

/- Savepoints are changed in both sessions. -/
theorem update_mirrors
    {f : World E → World E}
    (g : Table Place Savepoint → Table Place Savepoint)
    (hChange : ∀ w, f w =
      { w with savepoints := g w.savepoints }) :
    Quiet.Mirrors m Eq (update f) (update f) := by
  apply Quiet.Mirrors.update
  intro w w' h
  rw [hChange, hChange]
  exact { h with savepoints := congrArg g h.savepoints }

theorem modify_mirrors (f : Savepoint → Savepoint) :
    Quiet.Mirrors (E := E) m Eq
      (update (World.modifySavepoint p f))
      (update (World.modifySavepoint p f)) :=
  update_mirrors (·.modify p f) (World.modifySavepoint_eq p f)

theorem start_mirrors
    (hPatient : m.Patient)
    (c : ConnectionId)
    (name : Bytes) :
    Attempt.Mirrors (E := E) m Eq (start c p name)
      (start c p name) := by
  apply Attempt.Mirrors.andThen (.require _ _)
  intro _
  exact .andThen (Connection.execute_mirrors hPatient c _)
    fun _ => .lift (update_mirrors (·.put p _) fun _ => rfl)

theorem release_mirrors
    (hPatient : m.Patient) :
    Attempt.Mirrors (E := E) m Eq (release p)
      (release p) := by
  apply Attempt.Mirrors.andThen (.lift (lookup_mirrors p))
  intro s
  apply Attempt.Mirrors.andThen (.require _ _)
  intro _
  apply Attempt.Mirrors.andThen
    (Connection.requireExisting_mirrors _)
  intro c
  exact .andThen (Connection.execute_mirrors hPatient c _)
    fun _ => .lift (modify_mirrors p _)

theorem rollback_mirrors
    (hPatient : m.Patient) :
    Attempt.Mirrors (E := E) m Eq (rollback p)
      (rollback p) := by
  apply Attempt.Mirrors.andThen (.lift (lookup_mirrors p))
  intro s
  apply Attempt.Mirrors.andThen (.require _ _)
  intro _
  apply Attempt.Mirrors.andThen
    (Connection.requireExisting_mirrors _)
  intro c
  apply Attempt.Mirrors.andThen
    (Connection.execute_mirrors hPatient c _)
  intro _
  exact .andThen (Connection.execute_mirrors hPatient c _)
    fun _ => .lift (modify_mirrors p _)

theorem releaseQuietly_mirrors
    (hPatient : m.Patient) :
    Quiet.Mirrors (E := E) m Eq (releaseQuietly p)
      (releaseQuietly p) := by
  apply Quiet.Mirrors.andThen (lookup_mirrors p)
  intro s
  apply Quiet.Mirrors.andThen (modify_mirrors p _)
  intro _
  apply Quiet.Mirrors.andThen
    (Connection.openTransaction_mirrors _)
  rintro ⟨c, busy⟩
  cases c with
  | none => exact .pure rfl
  | some c =>
      cases busy with
      | false => exact .pure rfl
      | true =>
          exact .tolerate
            (.map (Connection.execute_mirrors hPatient c _))
            fun e => .note _ _ _

/- What is taken from one table to another place of it. -/
theorem transfer_mirrors :
    Quiet.Mirrors (E := E) m Eq (update (transfer p q))
      (update (transfer p q)) := by
  apply update_mirrors fun t =>
    (t.get? p).elim t fun r => (t.put q r).put p r.emptied
  intro w
  unfold transfer
  cases w.savepoints.get? p <;> rfl

theorem abandon_mirrors
    (hPatient : m.Patient) :
    Quiet.Mirrors (E := E) m Eq (abandon p) (abandon p) :=
  .andThen (lookup_mirrors p) fun _ =>
    .ite (releaseQuietly_mirrors p hPatient) (.pure rfl)

theorem assign_mirrors
    (hPatient : m.Patient) :
    Quiet.Mirrors (E := E) m Eq (assign p q)
      (assign p q) :=
  .ite (.pure rfl) (.andThen (abandon_mirrors q hPatient)
    fun _ => transfer_mirrors p q)

theorem destroy_mirrors
    (hPatient : m.Patient) :
    Quiet.Mirrors (E := E) m Eq (destroy p) (destroy p) :=
  .andThen (abandon_mirrors p hPatient)
    fun _ => update_mirrors (·.erase p) fun _ => rfl

end Savepoint

/- A savepoint is made inside a transaction. -/
theorem Transaction.savepoint_mirrors
    (hPatient : m.Patient)
    (t p : Place)
    (name : Bytes) :
    Attempt.Mirrors (E := E) m Eq (savepoint t p name)
      (savepoint t p name) := by
  apply Attempt.Mirrors.andThen (.lift (lookup_mirrors t))
  intro guard
  apply Attempt.Mirrors.andThen (.require _ _)
  intro _
  exact .andThen (Connection.requireExisting_mirrors _)
    fun c => Savepoint.start_mirrors p hPatient c name

end SqliteAccess
