import SqliteAccess.Proofs.Connection.Execution
import SqliteAccess.Transaction.Guard

/-
  Guards of transactions.  They need a temporary statement at
  most.

  The programs are characterized by:
    * `Transaction.commit_keeps`
    * `Transaction.rollback_keeps`
    * `Transaction.destroy_keeps`
    * `Transaction.within_keeps`
-/

namespace SqliteAccess

variable {E : Engine} {α : Type} {A : Part → Prop}
variable {c : ConnectionId} {p source target : Place}

open Attempt

------------------------------------------------------------
-- Connections of Guards
------------------------------------------------------------

namespace Connection

variable {P : Custody → Prop}

theorem existing_keeps
    (c : Option ConnectionId) :
    Quiet.Keeps (E := E) A P (existing c) := by
  cases c with
  | none => exact .pure _
  | some c =>
      apply Quiet.Keeps.bind (.read _)
      intro exists_
      apply Quiet.Keeps.ite
      · exact fun _ => .pure _
      · exact fun _ => .pure _

theorem requireExisting_keeps
    (c : Option ConnectionId) :
    Keeps (E := E) A P (requireExisting c) := by
  apply Keeps.bind (.lift (existing_keeps c))
  intro found
  cases found with
  | none => exact .refuse _
  | some c => exact .pure c

theorem openTransaction_keeps
    (c : Option ConnectionId) :
    Quiet.Keeps (E := E) A P (openTransaction c) := by
  apply Quiet.Keeps.bind (existing_keeps c)
  intro found
  cases found with
  | none => exact .pure _
  | some c =>
      apply Quiet.Keeps.of_asked
      intro g
      apply Quiet.Leads.read
      cases hHandle : (g.world.connection c).handle with
      | none => exact .pure (.refl g)
      | some db =>
          apply Quiet.Leads.ask
          · exact fun _ => .database rfl
              (.inl
                ⟨c, World.get?_of_connection_handle hHandle⟩)
          intro idle engine
          exact .pure ((Stage.Asked.refl g).heard _ engine)

end Connection

------------------------------------------------------------
-- Transactions
------------------------------------------------------------

namespace Transaction

theorem modify_keeps
    {P : Custody → Prop}
    (p : Place)
    (f : Transaction → Transaction) :
    Quiet.Keeps (E := E) A P
      (Quiet.update (World.modifyTransaction p f)) := by
  apply Quiet.Keeps.aside
  intro w
  rw [World.modifyTransaction_eq]
  exact ⟨_, w.savepoints, w.rows, w.library, rfl⟩

theorem start_keeps
    (hPart : A (.statement .scratch))
    (type : TransactionType) :
    Keeps (E := E) A Custody.Idle (start c p type) := by
  apply Keeps.bind (Connection.execute_keeps hPart _)
  intro _
  apply Keeps.lift
  exact .aside fun w =>
    ⟨_, w.savepoints, w.rows, w.library, rfl⟩

theorem commit_keeps
    (hPart : A (.statement .scratch)) :
    Keeps (E := E) A Custody.Idle (commit p) := by
  apply Keeps.bind (.read _)
  intro t
  apply Keeps.bind (.require _ _)
  intro _
  apply Keeps.bind (Connection.requireExisting_keeps _)
  intro c
  apply Keeps.bind (Connection.execute_keeps hPart _)
  intro _
  exact .lift (modify_keeps _ _)

theorem rollback_keeps
    (hPart : A (.statement .scratch)) :
    Keeps (E := E) A Custody.Idle (rollback p) := by
  apply Keeps.bind (.read _)
  intro t
  apply Keeps.bind (.require _ _)
  intro _
  apply Keeps.bind (Connection.requireExisting_keeps _)
  intro c
  apply Keeps.bind (.lift (modify_keeps _ _))
  intro _
  apply Keeps.bind
    (.of_asked fun _ => Connection.isAutocommit_leads)
  intro idle
  apply Keeps.ite
  · exact fun _ => (Connection.execute_keeps hPart _).map
  · exact fun _ => .pure _

theorem rollbackQuietly_keeps
    (hPart : A (.statement .scratch)) :
    Quiet.Keeps (E := E) A Custody.Idle
      (rollbackQuietly p) := by
  apply Quiet.Keeps.bind (.read _)
  intro t
  apply Quiet.Keeps.bind (modify_keeps _ _)
  intro _
  apply Quiet.Keeps.bind (Connection.openTransaction_keeps _)
  rintro ⟨found, hasOne⟩
  cases found with
  | none => exact .pure _
  | some c =>
      cases hasOne with
      | false => exact .note _ _ _
      | true =>
          apply Keeps.tolerate
          · exact (Connection.execute_keeps hPart _).map
          · exact fun e => .note _ _ _

theorem move_keeps
    {P : Custody → Prop}
    (source target : Place) :
    Quiet.Keeps (E := E) A P (move source target) := by
  apply Quiet.Keeps.aside
  intro w
  unfold transfer
  cases w.transactions.get? source with
  | none =>
      exact ⟨w.transactions, w.savepoints, w.rows, w.library,
        rfl⟩
  | some t => exact ⟨_, w.savepoints, w.rows, w.library, rfl⟩

theorem abandon_keeps
    (hPart : A (.statement .scratch)) :
    Quiet.Keeps (E := E) A Custody.Idle (abandon p) := by
  apply Quiet.Keeps.bind (.read _)
  intro t
  apply Quiet.Keeps.ite
  · exact fun _ => rollbackQuietly_keeps hPart
  · exact fun _ => .pure _

theorem assign_keeps
    (hPart : A (.statement .scratch)) :
    Quiet.Keeps (E := E) A Custody.Idle
      (assign source target) := by
  apply Quiet.Keeps.ite
  · exact fun _ => .pure _
  · intro _
    apply Quiet.Keeps.bind (abandon_keeps hPart)
    exact fun _ => move_keeps source target

theorem destroy_keeps
    (hPart : A (.statement .scratch)) :
    Quiet.Keeps (E := E) A Custody.Idle (destroy p) := by
  apply Quiet.Keeps.bind (abandon_keeps hPart)
  intro _
  exact .aside fun w =>
    ⟨_, w.savepoints, w.rows, w.library, rfl⟩

/-
  Work inside a transaction whose guard has a place of its
  own, so that the work can hold transactions as well.
-/
def withinAt
    (c : ConnectionId)
    (p : Place)
    (work : Place → Attempt E α) : Attempt E α := do
  start c p .deferred
  ensuring
    (do
      let result ← work p
      commit p
      return result)
    (destroy p)

/- The usual place is the one for temporary guards. -/
theorem within_eq
    (c : ConnectionId)
    (work : Place → Attempt E α) :
    within c work = withinAt c .scratch work := rfl

theorem withinAt_keeps
    {work : Place → Attempt E α}
    (hPart : A (.statement .scratch))
    (hWork : Keeps A Custody.Idle (work p)) :
    Keeps A Custody.Idle (withinAt c p work) := by
  apply Keeps.bind (start_keeps hPart _)
  intro _
  apply Keeps.ensuring
  · apply Keeps.bind hWork
    intro result
    exact (commit_keeps hPart).map
  · exact destroy_keeps hPart

theorem within_keeps
    {work : Place → Attempt E α}
    (hPart : A (.statement .scratch))
    (hWork : Keeps A Custody.Idle (work .scratch)) :
    Keeps A Custody.Idle (within c work) := by
  rw [within_eq]
  exact withinAt_keeps hPart hWork

end Transaction

end SqliteAccess
