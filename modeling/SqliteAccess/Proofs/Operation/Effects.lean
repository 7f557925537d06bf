import SqliteAccess.Proofs.Transaction.Effects

/-
  What ordinary operations are kept from.  They compile texts
  at most: they change no guard, make and forget no
  connection, and have nothing to do with the use of the
  engine.

  Key definitions include:
    * `Operation.isOrdinary`

  The operations are characterized by:
    * `StatementRequest.perform_affects`
    * `BackupRequest.perform_affects`
    * `Operation.perform_affects`
-/

namespace SqliteAccess

variable {E : Engine} {α : Type} {A : Effect → Prop}

open Attempt

------------------------------------------------------------
-- Replies
------------------------------------------------------------

theorem Reply.after_affects
    {x : Attempt E Unit}
    (h : Affects A x) :
    Affects A (Reply.after x) :=
  h.map

theorem Reply.of_affects
    {make : α → Reply}
    {x : Attempt E α}
    (h : Affects A x) :
    Affects A (Reply.of make x) :=
  h.map

------------------------------------------------------------
-- Requests
------------------------------------------------------------

theorem LogRequest.perform_affects (r : LogRequest) :
    Affects (E := E) A r.perform := by
  cases r with
  | level =>
      apply Affects.bind (.lift (.relog _))
      intro _
      apply Affects.bind
      · exact .lift fun s => (.refl : Changes A s s)
      exact fun _ => .pure _
  | _ => exact Reply.after_affects (.lift (.relog _))

/- The slot of an owner is only looked up. -/
theorem Statement.ownerSlot_affects (p : Place) :
    Affects (E := E) A (ownerSlot p) := by
  apply Affects.bind (owner_affects p)
  intro found
  cases found with
  | none => exact .pure none
  | some c => exact .read _

theorem StatementRequest.perform_affects
    (p : Place)
    (r : StatementRequest) :
    Affects (E := E) A (r.perform p) := by
  cases r with
  | bind index argument =>
      exact Reply.after_affects
        (Statement.bindArgument_affects p index argument)
  | bindNamed name argument =>
      exact Reply.after_affects
        (Statement.bindNamed_affects p name argument)
  | clearBindings =>
      exact Reply.after_affects
        (Statement.clearBindings_affects p)
  | step => exact Reply.of_affects (Statement.step_affects p)
  | next => exact Reply.of_affects (Statement.next_affects p)
  | execute =>
      exact Reply.of_affects (Statement.execute_affects p)
  | reset =>
      exact Reply.after_affects (Statement.reset_affects p)
  | finalize =>
      exact Reply.after_affects
        (.lift (Statement.finalize_affects p))
  | columnValue index =>
      exact Reply.of_affects
        (Statement.columnValue_affects p index)
  | columnAs t index =>
      exact Reply.of_affects
        (Statement.columnAs_affects p index t)
  | columnType index =>
      exact Reply.of_affects
        (Statement.columnType_affects p index)
  | columnIsNull index =>
      exact Reply.of_affects
        (Statement.columnIsNull_affects p index)
  | columnCount =>
      exact Reply.of_affects
        (Statement.columnCount_affects p).map
  | columnName index =>
      exact Reply.of_affects
        (Statement.columnName_affects p index)
  | columnDeclaration index =>
      exact Reply.of_affects
        (Statement.columnDeclaration_affects p index)
  | countParameters =>
      exact Reply.of_affects
        (Statement.countParameters_affects p).map
  | parameterIndex name =>
      exact Reply.of_affects
        (Statement.parameterIndex_affects p name).map
  | parameterName index =>
      exact Reply.of_affects
        (Statement.parameterName_affects p index)
  | info =>
      apply Affects.bind (.read _)
      exact fun s => .pure _
  | isReadOnly =>
      exact Reply.of_affects (Statement.isReadOnly_affects p)
  | expandedSql =>
      exact Reply.of_affects (Statement.expandedSql_affects p)
  | owner =>
      exact Reply.of_affects (Statement.ownerSlot_affects p)

theorem RowRequest.perform_affects
    (r : Row)
    (q : RowRequest) :
    Affects (E := E) A (q.perform r) := by
  cases q with
  | size => exact Reply.of_affects r.size_affects.map
  | value index =>
      exact Reply.of_affects (r.value_affects index)
  | isNull index =>
      exact Reply.of_affects (r.isNull_affects index)
  | columnName index =>
      exact Reply.of_affects (r.columnName_affects index)
  | isCurrent => exact Reply.of_affects (.read _)
  | getAs t index =>
      exact Reply.of_affects (r.getAs_affects index t)
  | values => exact Reply.of_affects r.values_affects

theorem BackupRequest.perform_affects
    (p : Place)
    (r : BackupRequest) :
    Affects (E := E) A (r.perform p) := by
  cases r with
  | step pages =>
      exact Reply.of_affects (Backup.step_affects p pages)
  | remaining =>
      exact Reply.of_affects (Backup.remaining_affects p)
  | pageCount =>
      exact Reply.of_affects (Backup.pageCount_affects p)
  | finish =>
      exact Reply.after_affects
        (.lift (Backup.finish_affects p))
  | info => exact Reply.of_affects (.read _)

/- Whether a request works without a guard. -/
def ConnectionRequest.isOrdinary : ConnectionRequest → Bool
  | withTransaction .. => false
  | _ => true

theorem ConnectionRequest.perform_affects
    (hCompile : A .compile)
    (c : ConnectionId)
    {r : ConnectionRequest}
    (hOrdinary : r.isOrdinary = true) :
    Affects (E := E) A (r.perform c) := by
  cases r with
  | close =>
      exact Reply.after_affects (Connection.close_affects c)
  | execute sql =>
      exact Reply.of_affects
        (Connection.execute_affects c hCompile sql)
  | executeBatch sql =>
      exact Reply.after_affects
        (Connection.executeBatch_affects c hCompile sql)
  | withTransaction body returns => cases hOrdinary
  | isAutocommit =>
      exact Reply.of_affects (Connection.isAutocommit_affects c)
  | transactionState schema =>
      exact Reply.of_affects
        (Connection.transactionState_affects c schema)
  | pragma name =>
      exact Reply.of_affects
        (Connection.pragma_affects c hCompile name)
  | setPragma name v =>
      exact Reply.after_affects
        (Connection.setPragma_affects c hCompile name v)
  | setConfig flag on =>
      exact Reply.after_affects
        (Connection.setConfig_affects c flag on)
  | getConfig flag =>
      exact Reply.of_affects
        (Connection.getConfig_affects c flag)
  | setBusyTimeout milliseconds =>
      exact Reply.after_affects
        (Connection.setBusyTimeout_affects c milliseconds)
  | interrupt =>
      exact Reply.after_affects
        (.lift (Connection.interrupt_affects c))
  | lastRowId =>
      exact Reply.of_affects (Connection.lastRowId_affects c)
  | changes =>
      exact Reply.of_affects (Connection.changes_affects c)
  | totalChanges =>
      exact Reply.of_affects
        (Connection.totalChanges_affects c)
  | tableExists name =>
      exact Reply.of_affects
        (Connection.tableExists_affects c hCompile name)
  | isReadOnly schema =>
      exact Reply.of_affects
        (Connection.isReadOnly_affects c schema)
  | info =>
      apply Affects.bind (.read _)
      exact fun conn => .pure _
  | options => exact Reply.of_affects (.read _)
  | compileByHost sql =>
      exact Reply.of_affects
        (.lift (Connection.compileByHost_affects c hCompile sql))

theorem SerializedRequest.perform_affects
    (hCompile : A .compile)
    (c : ConnectionId)
    (r : SerializedRequest) :
    Affects (E := E) A (r.perform c) := by
  cases r with
  | execute sql =>
      exact Reply.of_affects
        (Connection.execute_affects c hCompile sql)
  | isOpen => exact Reply.of_affects (.read _)
  | interrupt =>
      exact Reply.after_affects
        (.lift (Connection.interrupt_affects c))
  | close =>
      exact Reply.after_affects (Connection.close_affects c)

------------------------------------------------------------
-- Operations
------------------------------------------------------------

namespace Operation

theorem needed_affects (f : World E → Option α) :
    Affects A (needed (Quiet.read f)) := by
  apply Affects.bind (.read _)
  intro found
  cases found with
  | some a => exact .pure a
  | none => exact .throw _

theorem occupied_affects
    (table : World E → Table Place α)
    (n : Nat) :
    Affects A (occupied table n) :=
  (needed_affects _).map

theorem relocate_affects
    {find : Nat → Attempt E Place}
    {destroy : Place → Quiet E Unit}
    {move : Place → Place → Quiet E Unit}
    (hFind : ∀ n, Affects A (find n))
    (hDestroy : ∀ p, Quiet.Affects A (destroy p))
    (hMove : ∀ p q, Quiet.Affects A (move p q))
    (source target : Nat) :
    Affects A (relocate find destroy move source target) := by
  apply Affects.bind (hFind source)
  intro old
  apply Affects.optional
  case hRest => exact .pure _
  intro hRest
  apply Affects.bind (.lift (hDestroy _))
  intro _
  apply Affects.bind (.lift (hMove _ _))
  exact fun _ => hRest

theorem overwrite_affects
    {find : Nat → Attempt E Place}
    {assign : Place → Place → Quiet E Unit}
    (hFind : ∀ n, Affects A (find n))
    (hAssign : ∀ p q, Quiet.Affects A (assign p q))
    (source target : Nat) :
    Affects A (overwrite find assign source target) := by
  apply Affects.bind (hFind target)
  intro old
  apply Affects.bind (hFind source)
  intro new
  exact (Affects.lift (hAssign new old)).map

theorem discard_affects
    {find : Nat → Attempt E Place}
    {destroy : Place → Quiet E Unit}
    (hFind : ∀ n, Affects A (find n))
    (hDestroy : ∀ p, Quiet.Affects A (destroy p))
    (n : Nat) :
    Affects A (discard find destroy n) := by
  apply Affects.bind (hFind n)
  intro p
  exact (Affects.lift (hDestroy p)).map

theorem prepareIn_affects
    (hCompile : A .compile)
    (c : ConnectionId)
    (s : Nat)
    (sql : Bytes) :
    Affects (E := E) A (prepareIn c s sql) := by
  apply Affects.bind
  · exact .lift (Statement.destroy_affects _)
  exact fun _ => Statement.prepare_affects _ hCompile c sql

theorem assignPreparedIn_affects
    (hCompile : A .compile)
    (c s : Nat)
    (sql : Bytes) :
    Affects (E := E) A (assignPreparedIn c s sql) := by
  apply Affects.bind (needed_affects _)
  intro id
  apply Statement.within_affects hCompile
  intro p
  apply Affects.bind (occupied_affects _ s)
  exact fun target => .lift (Statement.assign_affects p target)

theorem fetchIn_affects (s r : Nat) :
    Affects (E := E) A (fetchIn s r) := by
  apply Affects.bind (occupied_affects _ s)
  intro p
  apply Affects.bind (Statement.fetch_affects p)
  intro found
  cases found with
  | some row =>
      exact (Affects.lift
        (.edit fun w => .apart w _ _ _ _ rfl)).map
  | none =>
      exact (Affects.lift
        (.edit fun w => .apart w _ _ _ _ rfl)).map

theorem backupBetween_affects
    (b source destination : Nat)
    (first second : Bytes) :
    Affects (E := E) A
      (backupBetween b source destination first second) := by
  apply Affects.bind (needed_affects _)
  intro source
  apply Affects.bind (needed_affects _)
  intro destination
  apply Affects.bind
  · exact .lift (Backup.destroy_affects _)
  exact fun _ => Backup.start_affects _ source destination _ _

/-
  Whether an operation has nothing to do with guards, with
  connections that come and go or with the use of the engine.
-/
def isOrdinary : Operation → Bool
  | library r =>
      match r with
      | .start => false
      | .stop => false
      | _ => true
  | openConnection .. => false
  | dropConnection _ => false
  | connection _ r => r.isOrdinary
  | begin .. => false
  | moveTransaction .. => false
  | assignTransaction .. => false
  | dropTransaction _ => false
  | transaction _ r =>
      match r with
      | .info => true
      | _ => false
  | savepoint .. => false
  | savepointOn .. => false
  | moveSavepoint .. => false
  | assignSavepoint .. => false
  | dropSavepoint _ => false
  | askSavepoint _ r =>
      match r with
      | .info => true
      | _ => false
  | serialize .. => false
  | dropSerialized _ => false
  | _ => true

/- An ordinary operation compiles texts at most. -/
theorem perform_affects
    (hCompile : A .compile)
    {op : Operation}
    (hOrdinary : op.isOrdinary = true) :
    Affects (E := E) A op.perform := by
  cases op with
  | library r =>
      cases r with
      | start => cases hOrdinary
      | stop => cases hOrdinary
      | state =>
          apply Affects.bind (.read _)
          exact fun _ => .pure _
      | version => exact Reply.of_affects (.ask rfl)
  | log r => exact r.perform_affects
  | connection c r =>
      apply Affects.bind (needed_affects _)
      intro id
      exact r.perform_affects hCompile id hOrdinary
  | copyAll source destination =>
      apply Affects.bind (needed_affects _)
      intro source
      apply Affects.bind (needed_affects _)
      intro destination
      exact Reply.after_affects (Backup.copyAll_affects _ _)
  | prepare c s sql =>
      apply Affects.bind (needed_affects _)
      intro id
      exact Reply.after_affects
        (prepareIn_affects hCompile id s sql)
  | assignPrepared c s sql =>
      exact Reply.after_affects
        (assignPreparedIn_affects hCompile c s sql)
  | moveStatement source target =>
      exact relocate_affects (occupied_affects _)
        Statement.destroy_affects Statement.move_affects _ _
  | assignStatement source target =>
      exact overwrite_affects (occupied_affects _)
        Statement.assign_affects _ _
  | dropStatement s =>
      exact discard_affects (occupied_affects _)
        Statement.destroy_affects s
  | fetch s r => exact Reply.of_affects (fetchIn_affects s r)
  | statement s r =>
      apply Affects.bind (occupied_affects _ s)
      exact fun p => r.perform_affects p
  | row r q =>
      apply Affects.bind (needed_affects _)
      exact fun found => q.perform_affects found
  | transaction t r =>
      cases r with
      | info =>
          apply Affects.bind (occupied_affects _ t)
          exact fun p => Reply.of_affects (.read _)
      | _ => cases hOrdinary
  | askSavepoint p r =>
      cases r with
      | info =>
          apply Affects.bind (occupied_affects _ p)
          exact fun p => Reply.of_affects (.read _)
      | _ => cases hOrdinary
  | startBackup b source destination first second =>
      exact Reply.after_affects
        (backupBetween_affects b source destination _ _)
  | dropBackup b =>
      exact discard_affects (occupied_affects _)
        Backup.destroy_affects b
  | backup b r =>
      apply Affects.bind (occupied_affects _ b)
      exact fun p => r.perform_affects p
  | prepareSerialized z s sql =>
      apply Affects.bind (needed_affects _)
      intro id
      exact Reply.after_affects
        (prepareIn_affects hCompile id s sql)
  | serialized z r =>
      apply Affects.bind (needed_affects _)
      exact fun id => r.perform_affects hCompile id
  | _ => cases hOrdinary

end Operation

end SqliteAccess
