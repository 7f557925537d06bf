import SqliteAccess.Operation.Requests
import SqliteAccess.Proofs.Connection.Opening
import SqliteAccess.Proofs.Statement.Row
import SqliteAccess.Proofs.Transaction.Nested

/-
  Requests to single objects, step by step.  None leaves more
  under way than before, and each changes one object at most.

  Key definitions include:
    * `ConnectionRequest.isForHost`
    * `StatementRequest.drives`

  The programs are characterized by:
    * `ConnectionRequest.perform_keeps`
    * `StatementRequest.perform_leads`
    * `RowRequest.perform_leads`
    * `TransactionRequest.perform_keeps`
    * `BackupRequest.perform_keeps`
-/

namespace SqliteAccess

variable {E : Engine} {α : Type} {A : Part → Prop}
variable {P : Custody → Prop} {g : Stage E}
variable {c : ConnectionId} {p : Place}

open Attempt

------------------------------------------------------------
-- Replies
------------------------------------------------------------

/- What an attempt leads to, whatever is replied. -/
theorem Reply.after_leads
    {x : Attempt E Unit}
    {R F : Stage E → Prop}
    (h : Leads A g g.world x (fun _ => R) F) :
    Leads A g g.world (Reply.after x) (fun _ => R) F := by
  apply Leads.bind
  apply h.mono
  · exact fun _ _ _ _ hAfter => .pure hAfter
  · exact fun _ _ _ hFailed => hFailed

theorem Reply.after_keeps
    {x : Attempt E Unit}
    (h : Keeps A P x) :
    Keeps A P (Reply.after x) :=
  h.map

theorem Reply.of_keeps
    {make : α → Reply}
    {x : Attempt E α}
    (h : Keeps A P x) :
    Keeps A P (Reply.of make x) :=
  h.map

------------------------------------------------------------
-- Library and Log
------------------------------------------------------------

/- No object depends on the log. -/
theorem Quiet.Keeps.relog (f : Log → Log) :
    Quiet.Keeps (E := E) A P (Quiet.relog f) :=
  fun g _ _ _ => ⟨g.custody, .refl, rfl⟩

theorem LibraryRequest.perform_keeps
    (r : LibraryRequest) :
    Keeps (E := E) A P r.perform := by
  cases r with
  | start => exact Reply.after_keeps Library.start_keeps
  | stop => exact Reply.of_keeps (.lift Library.stop_keeps)
  | state => exact (Keeps.read _).map
  | version => exact Reply.of_keeps (.lift (.askGlobal rfl))

theorem LogRequest.perform_keeps
    (r : LogRequest) :
    Keeps (E := E) A P r.perform := by
  cases r with
  | write level message fields =>
      exact Reply.after_keeps (.lift (.relog _))
  | setLevel level =>
      exact Reply.after_keeps (.lift (.relog _))
  | level =>
      apply Keeps.bind (.lift (.relog _))
      intro _
      have hLevel : Quiet.Keeps (E := E) A P
          (fun s => (s.log.level, s)) :=
        fun g _ _ _ => ⟨g.custody, .refl, rfl⟩
      exact (Keeps.lift hLevel).map
  | select logger =>
      exact Reply.after_keeps (.lift (.relog _))

------------------------------------------------------------
-- Connections
------------------------------------------------------------

/- Whether a request compiles a statement for the host. -/
def ConnectionRequest.isForHost :
    ConnectionRequest → Bool
  | compileByHost _ => true
  | _ => false

theorem TransactionItem.performAll_keeps
    {guard : Place}
    (hPart : A (.statement .scratch))
    (body : List TransactionItem)
    (last : Int) :
    Keeps (E := E) A Custody.Idle
      (performAll c guard body last) := by
  induction body generalizing last with
  | nil => exact .pure last
  | cons item r ih =>
      cases item with
      | execute sql =>
          apply Keeps.bind
            (Connection.execute_keeps hPart sql)
          exact ih
      | raise message => exact .throw _
      | commit =>
          apply Keeps.bind (Transaction.commit_keeps hPart)
          exact fun _ => ih last
      | rollback =>
          apply Keeps.bind (Transaction.rollback_keeps hPart)
          exact fun _ => ih last

/- No statement but a temporary one is needed. -/
theorem ConnectionRequest.perform_keeps
    (hPart : A (.statement .scratch))
    (r : ConnectionRequest)
    (hHost : r.isForHost = false)
    (hOpen : r ≠ .close) :
    Keeps (E := E) A Custody.Idle (r.perform c) := by
  cases r with
  | close => exact absurd rfl hOpen
  | execute sql =>
      exact Reply.of_keeps (Connection.execute_keeps hPart sql)
  | executeBatch sql =>
      exact Reply.after_keeps
        (Connection.executeBatch_keeps hPart sql)
  | withTransaction body returns =>
      apply Keeps.map
      apply Transaction.within_keeps hPart
      exact TransactionItem.performAll_keeps hPart body 0
  | isAutocommit =>
      exact Reply.of_keeps
        (.of_asked fun _ => Connection.isAutocommit_leads)
  | transactionState schema =>
      exact Reply.of_keeps
        (.of_asked fun _ =>
          Connection.transactionState_leads schema)
  | pragma name =>
      exact Reply.of_keeps (Connection.pragma_keeps hPart name)
  | setPragma name v =>
      exact Reply.after_keeps
        (Connection.setPragma_keeps hPart name v)
  | setConfig flag on =>
      exact Reply.after_keeps
        (.of_asked fun _ => Connection.setConfig_leads flag on)
  | getConfig flag =>
      exact Reply.of_keeps
        (.of_asked fun _ => Connection.getConfig_leads flag)
  | setBusyTimeout milliseconds =>
      exact Reply.after_keeps
        (.of_asked fun _ =>
          Connection.setBusyTimeout_leads milliseconds)
  | interrupt =>
      exact Reply.after_keeps
        (.lift (.of_asked fun _ => Connection.interrupt_leads))
  | lastRowId =>
      exact Reply.of_keeps
        (.of_asked fun _ => Connection.lastRowId_leads)
  | changes =>
      exact Reply.of_keeps
        (.of_asked fun _ => Connection.changes_leads)
  | totalChanges =>
      exact Reply.of_keeps
        (.of_asked fun _ => Connection.totalChanges_leads)
  | tableExists name =>
      exact Reply.of_keeps
        (Connection.tableExists_keeps hPart name)
  | isReadOnly schema =>
      exact Reply.of_keeps
        (.of_asked fun _ => Connection.isReadOnly_leads schema)
  | info => exact (Keeps.read _).map
  | options => exact Reply.of_keeps (.read _)
  | compileByHost sql => cases hHost

------------------------------------------------------------
-- Statements and Rows
------------------------------------------------------------

theorem Statement.ownerSlot_keeps :
    Keeps (E := E) A P (ownerSlot p) := by
  have hOwner : Keeps (E := E) A P (owner p) := by
    intro g _
    apply owner_leads.mono
    · rintro _ _ _ _ rfl
      rfl
    · rintro _ _ _ rfl
      rfl
  apply Keeps.bind hOwner
  intro found
  cases found with
  | none => exact .pure _
  | some c => exact .read _

/-
  Whether a request is to step a statement, to reset it or to
  finalize it.
-/
def StatementRequest.drives : StatementRequest → Bool
  | step => true
  | next => true
  | execute => true
  | reset => true
  | finalize => true
  | _ => false

/-
  A request changes no statement but the one that is asked,
  and that only if it drives it or finds it done.
-/
theorem StatementRequest.perform_leads
    (r : StatementRequest)
    (hPart : r.drives ∨ (g.world.statement p).state = .done →
      A (.statement p)) :
    Leads A g g.world (r.perform p)
      (fun _ g' => g'.custody = g.custody)
      (fun g' => g'.custody = g.custody) := by
  have hKeeps : ∀ {x : Attempt E Reply},
      Keeps A (fun _ => True) x →
        Leads A g g.world x
          (fun _ g' => g'.custody = g.custody)
          (fun g' => g'.custody = g.custody) :=
    fun h => h g trivial
  have hBinds : ∀ {x : Attempt E Unit},
      Binds p x →
        Leads A g g.world (Reply.after x)
          (fun _ g' => g'.custody = g.custody)
          (fun g' => g'.custody = g.custody) := by
    intro x h
    apply Leads.bind
    apply (h A g fun hDone => hPart (.inr hDone)).mono
    · exact fun _ g' _ _ hBound => .pure hBound.1.custody
    · exact fun g' _ _ hDrives => hDrives.custody
  have hSame : ∀ {β : Type} {x : Attempt E β},
      (∀ g, Leads A g g.world x
        (fun _ g' => g' = g) (· = g)) →
          Keeps A (fun _ => True) x := by
    intro β x h g _
    apply (h g).mono
    · rintro _ _ _ _ rfl
      rfl
    · rintro _ _ _ rfl
      rfl
  cases r with
  | bind index argument =>
      exact hBinds (Statement.bindArgument_binds argument)
  | bindNamed name argument =>
      exact hBinds (Statement.bindNamed_binds name argument)
  | clearBindings =>
      exact hBinds Statement.clearBindings_binds
  | step =>
      exact hKeeps (Reply.of_keeps
        (Statement.step_keeps (hPart (.inl rfl))))
  | next =>
      exact hKeeps (Reply.of_keeps
        (Statement.next_keeps (hPart (.inl rfl))))
  | execute =>
      exact hKeeps (Reply.of_keeps
        (Statement.execute_keeps (hPart (.inl rfl))))
  | reset =>
      exact hKeeps (Reply.after_keeps
        (Statement.reset_keeps (hPart (.inl rfl))))
  | finalize =>
      exact hKeeps (Reply.after_keeps
        (.lift (Statement.finalize_keeps (hPart (.inl rfl)))))
  | columnValue index =>
      exact hKeeps (Reply.of_keeps
        (Statement.keeps_of_reads fun _ =>
          Statement.columnValue_leads))
  | columnAs t index =>
      exact hKeeps (Reply.of_keeps
        (Statement.keeps_of_reads fun _ =>
          Statement.columnAs_leads t))
  | columnType index =>
      exact hKeeps (Reply.of_keeps
        (Statement.keeps_of_reads fun _ =>
          Statement.columnType_leads))
  | columnIsNull index =>
      exact hKeeps (Reply.of_keeps
        (Statement.keeps_of_reads fun _ =>
          Statement.columnIsNull_leads))
  | columnCount =>
      exact hKeeps (Reply.of_keeps
        Statement.columnCount_keeps.map)
  | columnName index =>
      exact hKeeps (Reply.of_keeps
        (hSame fun _ => Statement.columnName_leads))
  | columnDeclaration index =>
      exact hKeeps (Reply.of_keeps
        (hSame fun _ => Statement.columnDeclaration_leads))
  | countParameters =>
      apply hKeeps
      apply Reply.of_keeps
      exact (hSame fun _ =>
        Statement.countParameters_leads).map
  | parameterIndex name =>
      apply hKeeps
      apply Reply.of_keeps
      exact (Keeps.of_asked fun _ =>
        Statement.parameterIndex_leads name).map
  | parameterName index =>
      exact hKeeps (Reply.of_keeps
        (.of_asked fun _ => Statement.parameterName_leads))
  | info => exact hKeeps (Keeps.read _).map
  | isReadOnly =>
      exact hKeeps (Reply.of_keeps
        (.of_asked fun _ => Statement.isReadOnly_leads))
  | expandedSql =>
      exact hKeeps (Reply.of_keeps
        (.of_asked fun _ => Statement.expandedSql_leads))
  | owner =>
      exact hKeeps (Reply.of_keeps Statement.ownerSlot_keeps)

theorem StatementRequest.perform_keeps
    (hPart : A (.statement p))
    (r : StatementRequest) :
    Keeps (E := E) A P (r.perform p) :=
  fun _ _ => r.perform_leads fun _ => hPart

/- Rows are read from the statements that they find. -/
theorem RowRequest.perform_leads
    (r : Row)
    (q : RowRequest) :
    Leads A g g.world (q.perform r)
      (fun _ => g.ReadsRow r) (g.ReadsRow r) := by
  have hReply : ∀ {β γ : Type} {make : β → γ}
      {x : Attempt E β},
      Leads A g g.world x
        (fun _ => g.ReadsRow r) (g.ReadsRow r) →
      Leads A g g.world (x >>= fun a => Pure.pure (make a))
        (fun _ => g.ReadsRow r) (g.ReadsRow r) := by
    intro β γ make x h
    apply Leads.bind
    apply h.mono
    · exact fun _ _ _ _ hReads => .pure hReads
    · exact fun _ _ _ hReads => hReads
  cases q with
  | size => exact hReply (hReply Row.size_leads)
  | value index => exact hReply Row.value_leads
  | isNull index => exact hReply Row.isNull_leads
  | columnName index => exact hReply Row.columnName_leads
  | isCurrent => exact .read (.pure (.refl g))
  | getAs t index => exact hReply (Row.getAs_leads t)
  | values => exact hReply Row.values_leads

------------------------------------------------------------
-- Guards, Backups and Serialized Connections
------------------------------------------------------------

theorem TransactionRequest.perform_keeps
    (hPart : A (.statement .scratch))
    (r : TransactionRequest) :
    Keeps (E := E) A Custody.Idle (r.perform p) := by
  cases r with
  | commit =>
      exact Reply.after_keeps (Transaction.commit_keeps hPart)
  | rollback =>
      exact Reply.after_keeps (Transaction.rollback_keeps hPart)
  | info => exact Reply.of_keeps (.read _)

theorem SavepointRequest.perform_keeps
    (hPart : A (.statement .scratch))
    (r : SavepointRequest) :
    Keeps (E := E) A Custody.Idle (r.perform p) := by
  cases r with
  | release =>
      exact Reply.after_keeps (Savepoint.release_keeps hPart)
  | rollback =>
      exact Reply.after_keeps (Savepoint.rollback_keeps hPart)
  | info => exact Reply.of_keeps (.read _)

/- Whether a backup is asked to copy pages. -/
def BackupRequest.isStep : BackupRequest → Bool
  | step _ => true
  | _ => false

theorem BackupRequest.perform_keeps
    (hPart : A (.backup p))
    (r : BackupRequest) :
    Keeps (E := E) A
      (fun k => r.isStep = true → p = .scratch ∨ k.drives p)
      (r.perform p) := by
  cases r with
  | step pages =>
      exact Reply.of_keeps
        ((Backup.step_keeps hPart pages).weaken
          fun _ hDrives => hDrives rfl)
  | remaining =>
      exact Reply.of_keeps
        (.of_asked fun _ => Backup.remaining_leads)
  | pageCount =>
      exact Reply.of_keeps
        (.of_asked fun _ => Backup.pageCount_leads)
  | finish =>
      exact Reply.after_keeps
        (.lift (Backup.finish_keeps hPart))
  | info => exact Reply.of_keeps (.read _)

theorem SerializedRequest.perform_keeps
    (hPart : A (.statement .scratch))
    (r : SerializedRequest)
    (hOpen : r ≠ .close) :
    Keeps (E := E) A Custody.Idle (r.perform c) := by
  cases r with
  | execute sql =>
      exact Reply.of_keeps (Connection.execute_keeps hPart sql)
  | isOpen => exact Reply.of_keeps (.read _)
  | interrupt =>
      exact Reply.after_keeps
        (.lift (.of_asked fun _ => Connection.interrupt_leads))
  | close => exact absurd rfl hOpen

end SqliteAccess
