import SqliteAccess.Proofs.Operation.Run
import SqliteAccess.Proofs.Transaction.Mirroring

/-
  Operations on sessions that mirror each other.

  An operation names statements by their slots.  Where the
  same operations are carried out on the images of these
  slots, they give the same replies.

  Key definitions include:
    * `Operation.statementSlots`
    * `Operation.onImages`
    * `Operation.isLogging`
    * `Operation.performBy`
    * `Session.runAllBy`

  The operations are characterized by:
    * `Operation.performBy_rank`
    * `Operation.performBy_mirrors`
    * `Operation.performBy_sessions`
    * `Session.runAllBy_rank`
    * `Session.runAllBy_mirrors`
-/

namespace SqliteAccess

variable {E : Engine} {α : Type} {m : Mirror}

open Quiet Attempt

------------------------------------------------------------
-- Requests
------------------------------------------------------------

/- An attempt whose reply says nothing. -/
theorem Reply.after_mirrors
    {x y : Attempt E Unit}
    (h : Attempt.Mirrors m Eq x y) :
    Attempt.Mirrors m Eq (after x) (after y) :=
  .map h

/- An attempt whose reply is made from its result. -/
theorem Reply.of_mirrors
    {x y : Attempt E α}
    {make : α → Reply}
    (h : Attempt.Mirrors m Eq x y) :
    Attempt.Mirrors m Eq (of make x) (of make y) :=
  .map h

theorem LibraryRequest.perform_mirrors
    (r : LibraryRequest) :
    Attempt.Mirrors (E := E) m Eq r.perform r.perform := by
  cases r with
  | start => exact Reply.after_mirrors Library.start_mirrors
  | stop =>
      exact Reply.of_mirrors (.lift Library.stop_mirrors)
  | state => exact .map (.read fun h => h.library.symm)
  | version => exact Reply.of_mirrors (.invoke .version)

/- With the same log, a request to it is answered alike. -/
theorem LogRequest.perform_sessions
    {s s' : Session E}
    (hMirrors : s.Mirrors m s')
    (r : LogRequest) :
    (r.perform.run s').1 = (r.perform.run s).1 ∧
      (r.perform.run s).2.Mirrors m (r.perform.run s').2 := by
  cases r with
  | write level message fields =>
      exact ⟨rfl,
        { world := hMirrors.world
          log := congrArg (·.write level message fields)
            hMirrors.log }⟩
  | setLevel level =>
      exact ⟨rfl,
        { world := hMirrors.world
          log := congrArg (·.withLevel level) hMirrors.log }⟩
  | level =>
      have hReady := congrArg Log.ready hMirrors.log
      exact ⟨congrArg (Except.ok ∘ Reply.level ∘ Log.level)
          hReady,
        { world := hMirrors.world
          log := hReady }⟩
  | select logger =>
      exact ⟨rfl,
        { world := hMirrors.world
          log :=
            congrArg (·.withLogger logger) hMirrors.log }⟩

theorem TransactionItem.performAll_mirrors
    (hPatient : m.Patient)
    (c : ConnectionId)
    (guard : Place)
    (body : List TransactionItem)
    (last : Int) :
    Attempt.Mirrors (E := E) m Eq
      (performAll c guard body last)
      (performAll c guard body last) := by
  induction body generalizing last with
  | nil => exact .pure rfl
  | cons item body ih =>
      cases item with
      | execute sql =>
          exact .andThen
            (Connection.execute_mirrors hPatient c sql)
            fun changed => ih changed
      | raise message => exact .throw _
      | commit =>
          exact .andThen
            (Transaction.commit_mirrors guard hPatient)
            fun _ => ih last
      | rollback =>
          exact .andThen
            (Transaction.rollback_mirrors guard hPatient)
            fun _ => ih last

theorem Connection.compileByHost_mirrors
    (c : ConnectionId)
    (sql : Bytes) :
    Quiet.Mirrors (E := E) m Eq (compileByHost c sql)
      (compileByHost c sql) := by
  apply Quiet.Mirrors.bind (lookup_mirrors c)
  intro conn conn' hMirrors
  rw [hMirrors.handle]
  cases conn.handle with
  | none => exact .pure rfl
  | some db =>
      exact .andThen (Statement.compile_mirrors db sql)
        fun _ => .pure rfl

theorem ConnectionRequest.perform_mirrors
    (hPatient : m.Patient)
    (c : ConnectionId)
    (r : ConnectionRequest) :
    Attempt.Mirrors (E := E) m Eq (r.perform c)
      (r.perform c) := by
  cases r with
  | close =>
      exact Reply.after_mirrors (Connection.close_mirrors c)
  | execute sql =>
      exact Reply.of_mirrors
        (Connection.execute_mirrors hPatient c sql)
  | executeBatch sql =>
      exact Reply.after_mirrors
        (Connection.executeBatch_mirrors hPatient c sql)
  | withTransaction body returns =>
      apply Attempt.Mirrors.map
      apply Transaction.within_mirrors hPatient c
      exact TransactionItem.performAll_mirrors hPatient c _
        body 0
  | isAutocommit =>
      exact Reply.of_mirrors
        (Connection.isAutocommit_mirrors c)
  | transactionState schema =>
      exact Reply.of_mirrors
        (Connection.transactionState_mirrors c schema)
  | pragma name =>
      exact Reply.of_mirrors (Connection.pragma_mirrors c name)
  | setPragma name v =>
      exact Reply.after_mirrors
        (Connection.setPragma_mirrors hPatient c name v)
  | setConfig flag on =>
      exact Reply.after_mirrors
        (Connection.setConfig_mirrors c flag on)
  | getConfig flag =>
      exact Reply.of_mirrors
        (Connection.getConfig_mirrors c flag)
  | setBusyTimeout milliseconds =>
      exact Reply.after_mirrors
        (Connection.setBusyTimeout_mirrors c milliseconds)
  | interrupt =>
      exact Reply.after_mirrors
        (.lift (Connection.interrupt_mirrors c))
  | lastRowId =>
      exact Reply.of_mirrors (Connection.lastRowId_mirrors c)
  | changes =>
      exact Reply.of_mirrors (Connection.changes_mirrors c)
  | totalChanges =>
      exact Reply.of_mirrors
        (Connection.totalChanges_mirrors c)
  | tableExists name =>
      exact Reply.of_mirrors
        (Connection.tableExists_mirrors c name)
  | isReadOnly schema =>
      exact Reply.of_mirrors
        (Connection.isReadOnly_mirrors c schema)
  | info =>
      apply Attempt.Mirrors.bind
        (.lift (Connection.lookup_mirrors c))
      intro conn conn' hMirrors
      unfold Connection.isOpen
      rw [hMirrors.handle, hMirrors.path, hMirrors.count,
        hMirrors.backups]
      exact .pure rfl
  | options =>
      apply Attempt.Mirrors.bind
        (.lift (Connection.lookup_mirrors c))
      intro conn conn' hMirrors
      exact .pure (congrArg Reply.options
        hMirrors.options.symm)
  | compileByHost sql =>
      exact Reply.of_mirrors
        (.lift (Connection.compileByHost_mirrors c sql))

section Statements

variable {p : Place}

theorem Statement.ownerSlot_mirrors
    (hUses : m.Uses p) :
    Attempt.Mirrors (E := E) m Eq (ownerSlot p)
      (ownerSlot (m.place p)) := by
  apply Attempt.Mirrors.andThen (owner_mirrors hUses)
  intro owner
  cases owner with
  | none => exact .pure rfl
  | some c =>
      exact .read fun h =>
        congrArg (·.findKey? (· = c)) h.plain.symm

theorem StatementRequest.perform_mirrors
    (hPatient : m.Patient)
    (hUses : m.Uses p)
    (r : StatementRequest) :
    Attempt.Mirrors (E := E) m Eq (r.perform p)
      (r.perform (m.place p)) := by
  cases r with
  | bind index argument =>
      exact Reply.after_mirrors
        (Statement.bindArgument_mirrors hUses index argument)
  | bindNamed name argument =>
      exact Reply.after_mirrors
        (Statement.bindNamed_mirrors hUses name argument)
  | clearBindings =>
      exact Reply.after_mirrors
        (Statement.clearBindings_mirrors hUses)
  | step =>
      exact Reply.of_mirrors (Statement.step_mirrors hUses)
  | next =>
      exact Reply.of_mirrors (Statement.next_mirrors hUses)
  | execute =>
      exact Reply.of_mirrors
        (Statement.execute_mirrors hPatient hUses)
  | reset =>
      exact Reply.after_mirrors
        (Statement.reset_mirrors hUses)
  | finalize =>
      exact Reply.after_mirrors
        (.lift (Statement.finalize_mirrors hUses))
  | columnValue index =>
      exact Reply.of_mirrors
        (Statement.columnValue_mirrors hUses index)
  | columnAs t index =>
      exact Reply.of_mirrors
        (Statement.columnAs_mirrors hUses t index)
  | columnType index =>
      exact Reply.of_mirrors
        (Statement.columnType_mirrors hUses index)
  | columnIsNull index =>
      exact Reply.of_mirrors
        (Statement.columnIsNull_mirrors hUses index)
  | columnCount =>
      exact Reply.of_mirrors
        (.map (Statement.columnCount_mirrors hUses))
  | columnName index =>
      exact Reply.of_mirrors
        (Statement.columnName_mirrors hUses index)
  | columnDeclaration index =>
      exact Reply.of_mirrors
        (Statement.columnDeclaration_mirrors hUses index)
  | countParameters =>
      exact Reply.of_mirrors
        (.map (Statement.countParameters_mirrors hUses))
  | parameterIndex name =>
      exact Reply.of_mirrors
        (.map (Statement.parameterIndex_mirrors hUses name))
  | parameterName index =>
      exact Reply.of_mirrors
        (Statement.parameterName_mirrors hUses index)
  | info =>
      exact .map (.lift (Statement.lookup_mirrors hUses))
  | isReadOnly =>
      exact Reply.of_mirrors
        (Statement.isReadOnly_mirrors hUses)
  | expandedSql =>
      exact Reply.of_mirrors
        (Statement.expandedSql_mirrors hUses)
  | owner =>
      exact Reply.of_mirrors
        (Statement.ownerSlot_mirrors hUses)

theorem RowRequest.perform_mirrors
    (r : Row)
    (q : RowRequest) :
    Attempt.Mirrors (E := E) m Eq (q.perform r)
      (q.perform r) := by
  cases q with
  | size =>
      exact Reply.of_mirrors
        (.map (r.read_mirrors Statement.columnCount_mirrors))
  | value index =>
      exact Reply.of_mirrors (r.read_mirrors fun hUses =>
        Statement.columnValue_mirrors hUses index)
  | isNull index =>
      exact Reply.of_mirrors (r.read_mirrors fun hUses =>
        Statement.columnIsNull_mirrors hUses index)
  | columnName index =>
      exact Reply.of_mirrors (r.read_mirrors fun hUses =>
        Statement.columnName_mirrors hUses index)
  | isCurrent =>
      exact Reply.of_mirrors
        (.read fun h => (h.isCurrent r).symm)
  | getAs t index =>
      exact Reply.of_mirrors (r.read_mirrors fun hUses =>
        Statement.columnAs_mirrors hUses t index)
  | values => exact Reply.of_mirrors r.values_mirrors

end Statements

theorem TransactionRequest.perform_mirrors
    (hPatient : m.Patient)
    (p : Place)
    (r : TransactionRequest) :
    Attempt.Mirrors (E := E) m Eq (r.perform p)
      (r.perform p) := by
  cases r with
  | commit =>
      exact Reply.after_mirrors
        (Transaction.commit_mirrors p hPatient)
  | rollback =>
      exact Reply.after_mirrors
        (Transaction.rollback_mirrors p hPatient)
  | info =>
      exact Reply.of_mirrors
        (.lift (Transaction.lookup_mirrors p))

theorem SavepointRequest.perform_mirrors
    (hPatient : m.Patient)
    (p : Place)
    (r : SavepointRequest) :
    Attempt.Mirrors (E := E) m Eq (r.perform p)
      (r.perform p) := by
  cases r with
  | release =>
      exact Reply.after_mirrors
        (Savepoint.release_mirrors p hPatient)
  | rollback =>
      exact Reply.after_mirrors
        (Savepoint.rollback_mirrors p hPatient)
  | info =>
      exact Reply.of_mirrors
        (.lift (Savepoint.lookup_mirrors p))

theorem BackupRequest.perform_mirrors
    (p : Place)
    (r : BackupRequest) :
    Attempt.Mirrors (E := E) m Eq (r.perform p)
      (r.perform p) := by
  cases r with
  | step pages =>
      exact Reply.of_mirrors (Backup.step_mirrors p pages)
  | remaining =>
      exact Reply.of_mirrors (Backup.remaining_mirrors p)
  | pageCount =>
      exact Reply.of_mirrors (Backup.pageCount_mirrors p)
  | finish =>
      exact Reply.after_mirrors
        (.lift (Backup.finish_mirrors p))
  | info =>
      exact Reply.of_mirrors (.lift (Backup.lookup_mirrors p))

theorem SerializedRequest.perform_mirrors
    (hPatient : m.Patient)
    (c : ConnectionId)
    (r : SerializedRequest) :
    Attempt.Mirrors (E := E) m Eq (r.perform c)
      (r.perform c) := by
  cases r with
  | execute sql =>
      exact Reply.of_mirrors
        (Connection.execute_mirrors hPatient c sql)
  | isOpen =>
      apply Attempt.Mirrors.bind
        (.lift (Connection.lookup_mirrors c))
      intro conn conn' hMirrors
      exact .pure (by
        simp only [Connection.isOpen, hMirrors.handle])
  | interrupt =>
      exact Reply.after_mirrors
        (.lift (Connection.interrupt_mirrors c))
  | close =>
      exact Reply.after_mirrors (Connection.close_mirrors c)

------------------------------------------------------------
-- Finding Objects
------------------------------------------------------------

namespace Operation

/- Whether places are one that is used and its image. -/
def Image
    (m : Mirror)
    (p p' : Place) : Prop :=
  p' = m.place p ∧ m.Uses p

theorem needed_mirrors
    {f g : World E → Option α}
    (h : ∀ {w w'}, w.Mirrors m w' → g w' = f w) :
    Attempt.Mirrors m Eq (needed (read f))
      (needed (read g)) := by
  apply Attempt.Mirrors.andThen (.read fun hWorlds =>
    (h hWorlds).symm)
  intro found
  cases found with
  | none => exact .throw _
  | some a => exact .pure rfl

theorem connectionIn_mirrors (c : Nat) :
    Attempt.Mirrors (E := E) m Eq (connectionIn c)
      (connectionIn c) :=
  needed_mirrors fun h => congrArg (·.get? c) h.plain

theorem serializedIn_mirrors (z : Nat) :
    Attempt.Mirrors (E := E) m Eq (serializedIn z)
      (serializedIn z) :=
  needed_mirrors fun h => congrArg (·.get? z) h.serialized

theorem rowIn_mirrors (r : Nat) :
    Attempt.Mirrors (E := E) m Eq (rowIn r) (rowIn r) :=
  needed_mirrors fun h => congrArg (·.get? r) h.rows

theorem statementIn_mirrors
    {n : Nat}
    (hUses : ¬ m.spare n) :
    Attempt.Mirrors (E := E) m (Image m) (statementIn n)
      (statementIn (m.slot n)) := by
  apply Attempt.Mirrors.andThen
  · exact needed_mirrors fun h =>
      h.statements.kept (.slot n) hUses
  · exact fun _ => .pure ⟨rfl, hUses⟩

theorem transactionIn_mirrors (t : Nat) :
    Attempt.Mirrors (E := E) m Eq (transactionIn t)
      (transactionIn t) :=
  .map (needed_mirrors fun h =>
    congrArg (·.get? (.slot t)) h.transactions)

theorem savepointIn_mirrors (p : Nat) :
    Attempt.Mirrors (E := E) m Eq (savepointIn p)
      (savepointIn p) :=
  .map (needed_mirrors fun h =>
    congrArg (·.get? (.slot p)) h.savepoints)

theorem backupIn_mirrors (b : Nat) :
    Attempt.Mirrors (E := E) m Eq (backupIn b)
      (backupIn b) :=
  .map (needed_mirrors fun h =>
    congrArg (·.get? (.slot b)) h.backups)

------------------------------------------------------------
-- Moving Objects
------------------------------------------------------------

section Moving

variable {Q : Place → Place → Prop}
variable {find : Nat → Attempt E Place}
variable {destroy : Place → Quiet E Unit}
variable {change : Place → Place → Quiet E Unit}
variable {a b a' b' : Nat}

theorem relocate_mirrors
    (hFind : Attempt.Mirrors m Q (find a) (find a'))
    (hSlots : a' = b' ↔ a = b)
    (hDestroy : Quiet.Mirrors m Eq (destroy (.slot b))
      (destroy (.slot b')))
    (hMove : ∀ {p p'}, Q p p' → Quiet.Mirrors m Eq
      (change p (.slot b)) (change p' (.slot b'))) :
    Attempt.Mirrors m Eq (relocate find destroy change a b)
      (relocate find destroy change a' b') := by
  apply Attempt.Mirrors.bind hFind
  intro p p' hPlaces
  simp only [ne_eq, hSlots]
  apply Attempt.Mirrors.optional (.pure rfl)
  intro hNext
  apply Attempt.Mirrors.andThen (.lift hDestroy)
  intro _
  exact .andThen (.lift (hMove hPlaces)) fun _ => hNext

theorem overwrite_mirrors
    (hSource : Attempt.Mirrors m Q (find a) (find a'))
    (hTarget : Attempt.Mirrors m Q (find b) (find b'))
    (hAssign : ∀ {p p' q q'}, Q p p' → Q q q' →
      Quiet.Mirrors m Eq (change p q) (change p' q')) :
    Attempt.Mirrors m Eq (overwrite find change a b)
      (overwrite find change a' b') := by
  apply Attempt.Mirrors.bind hTarget
  intro q q' hOld
  apply Attempt.Mirrors.bind hSource
  intro p p' hNew
  exact .map (.lift (hAssign hNew hOld))

theorem discard_mirrors
    (hFind : Attempt.Mirrors m Q (find a) (find a'))
    (hDestroy : ∀ {p p'}, Q p p' →
      Quiet.Mirrors m Eq (destroy p) (destroy p')) :
    Attempt.Mirrors m Eq (discard find destroy a)
      (discard find destroy a') := by
  apply Attempt.Mirrors.bind hFind
  exact fun p p' hPlaces => .map (.lift (hDestroy hPlaces))

end Moving

------------------------------------------------------------
-- Creating Objects
------------------------------------------------------------

theorem prepareIn_mirrors
    {s : Nat}
    (hUses : ¬ m.spare s)
    (c : ConnectionId)
    (sql : Bytes) :
    Attempt.Mirrors (E := E) m Eq (prepareIn c s sql)
      (prepareIn c (m.slot s) sql) :=
  .andThen
    (.lift (Statement.destroy_mirrors (p := .slot s) hUses))
    fun _ => Statement.prepare_mirrors (p := .slot s) hUses
      c sql

theorem assignPreparedIn_mirrors
    {s : Nat}
    (hUses : ¬ m.spare s)
    (c : Nat)
    (sql : Bytes) :
    Attempt.Mirrors (E := E) m Eq (assignPreparedIn c s sql)
      (assignPreparedIn c (m.slot s) sql) := by
  apply Attempt.Mirrors.andThen (connectionIn_mirrors c)
  intro id
  apply Statement.within_mirrors
  apply Attempt.Mirrors.bind (statementIn_mirrors hUses)
  rintro target _ ⟨rfl, hTarget⟩
  exact .lift (Statement.assign_mirrors (p := .scratch)
    trivial hTarget)

theorem fetchIn_mirrors
    {s : Nat}
    (hUses : ¬ m.spare s)
    (r : Nat) :
    Attempt.Mirrors (E := E) m Eq (fetchIn s r)
      (fetchIn (m.slot s) r) := by
  apply Attempt.Mirrors.bind (statementIn_mirrors hUses)
  rintro p _ ⟨rfl, hPlace⟩
  apply Attempt.Mirrors.andThen
    (Statement.fetch_mirrors hPlace)
  intro found
  cases found with
  | some row =>
      exact .map (.update fun h =>
        { h with rows := by simp only [h.rows] })
  | none =>
      exact .map (.update fun h =>
        { h with rows := by simp only [h.rows] })

theorem beginIn_mirrors
    (hPatient : m.Patient)
    (c t : Nat)
    (type : TransactionType) :
    Attempt.Mirrors (E := E) m Eq (beginIn c t type)
      (beginIn c t type) := by
  apply Attempt.Mirrors.andThen (connectionIn_mirrors c)
  intro id
  exact .andThen
    (.lift (Transaction.destroy_mirrors _ hPatient))
    fun _ => Transaction.start_mirrors _ hPatient id type

theorem savepointInside_mirrors
    (hPatient : m.Patient)
    (t p : Nat)
    (name : Bytes) :
    Attempt.Mirrors (E := E) m Eq (savepointInside t p name)
      (savepointInside t p name) := by
  apply Attempt.Mirrors.andThen (transactionIn_mirrors t)
  intro guard
  exact .andThen
    (.lift (Savepoint.destroy_mirrors _ hPatient))
    fun _ => Transaction.savepoint_mirrors hPatient guard _
      name

theorem savepointDirect_mirrors
    (hPatient : m.Patient)
    (c p : Nat)
    (name : Bytes) :
    Attempt.Mirrors (E := E) m Eq (savepointDirect c p name)
      (savepointDirect c p name) := by
  apply Attempt.Mirrors.andThen (connectionIn_mirrors c)
  intro id
  exact .andThen
    (.lift (Savepoint.destroy_mirrors _ hPatient))
    fun _ => Savepoint.start_mirrors _ hPatient id name

theorem backupBetween_mirrors
    (b source destination : Nat)
    (first second : Bytes) :
    Attempt.Mirrors (E := E) m Eq
      (backupBetween b source destination first second)
      (backupBetween b source destination first second) := by
  apply Attempt.Mirrors.andThen (connectionIn_mirrors source)
  intro from'
  apply Attempt.Mirrors.andThen
    (connectionIn_mirrors destination)
  intro to'
  exact .andThen (.lift (Backup.destroy_mirrors _))
    fun _ => Backup.start_mirrors _ _ _ first second

------------------------------------------------------------
-- Destroying Connections in an Order
------------------------------------------------------------

/- Empty a slot, the statements in a given order. -/
def vacateConnectionBy
    (order : Place → Nat)
    (c : Nat) : Quiet E Unit := do
  match ← read (·.plain.get? c) with
  | none => pure ()
  | some id =>
      update fun w => { w with plain := w.plain.erase c }
      Connection.destroyBy order id

/- Empty a serialized slot in a given order. -/
def vacateSerializedBy
    (order : Place → Nat)
    (z : Nat) : Quiet E Unit := do
  match ← read (·.serialized.get? z) with
  | none => pure ()
  | some id =>
      update fun w =>
        { w with serialized := w.serialized.erase z }
      Connection.destroyBy order id

/- Open a connection in a slot that is emptied so. -/
def openInBy
    (order : Place → Nat)
    (c : Nat)
    (path : Bytes)
    (options : ConnectionOptions) : Attempt E Unit := do
  lift (vacateConnectionBy order c)
  let id ← Connection.openAt path options
  lift <| update fun w =>
    { w with plain := w.plain.put c id }

/- Serialize a connection in a slot that is emptied so. -/
def serializeInBy
    (order : Place → Nat)
    (z : Nat)
    (c : Option Nat) : Attempt E Unit := do
  match c with
  | none =>
      lift (vacateSerializedBy order z)
      refuse .missingConnection
  | some c =>
      let id ← connectionIn c
      lift (vacateSerializedBy order z)
      lift <| update fun w =>
        { w with
          plain := w.plain.erase c
          serialized := w.serialized.put z id }

/-
  Carry out an operation; a connection that it destroys
  finalizes its statements in a given order.
-/
def performBy
    (order : Place → Nat) : Operation → Attempt E Reply
  | openConnection c path options =>
      Reply.after (openInBy order c path options)
  | dropConnection c => do
      let _ ← connectionIn c (E := E)
      lift (vacateConnectionBy order c)
      return .nothing
  | serialize z c => Reply.after (serializeInBy order z c)
  | dropSerialized z => do
      let _ ← serializedIn z (E := E)
      lift (vacateSerializedBy order z)
      return .nothing
  | op => op.perform

/- Operations go by the rank of places. -/
@[simp]
theorem performBy_rank (op : Operation) :
    op.performBy (E := E) Place.rank = op.perform := by
  cases op <;> rfl

/- What destroys no connection does not depend on the order. -/
theorem performBy_of_kept
    {op : Operation}
    (hKept : op.mayDestroyConnection = false)
    (order : Place → Nat) :
    op.performBy (E := E) order = op.perform := by
  cases op <;> cases hKept <;> rfl

section Ordered

variable {order order' : Place → Nat}

theorem vacateConnectionBy_mirrors
    (hCarries : m.Carries order order')
    (c : Nat) :
    Quiet.Mirrors (E := E) m Eq (vacateConnectionBy order c)
      (vacateConnectionBy order' c) := by
  apply Quiet.Mirrors.andThen
  · exact .read fun h => congrArg (·.get? c) h.plain.symm
  · intro found
    cases found with
    | none => exact .pure rfl
    | some id =>
        apply Quiet.Mirrors.andThen
        · exact .update fun h =>
            { h with plain := by simp only [h.plain] }
        · exact fun _ =>
            Connection.destroyBy_mirrors hCarries id

theorem vacateSerializedBy_mirrors
    (hCarries : m.Carries order order')
    (z : Nat) :
    Quiet.Mirrors (E := E) m Eq (vacateSerializedBy order z)
      (vacateSerializedBy order' z) := by
  apply Quiet.Mirrors.andThen
  · exact .read fun h =>
      congrArg (·.get? z) h.serialized.symm
  · intro found
    cases found with
    | none => exact .pure rfl
    | some id =>
        apply Quiet.Mirrors.andThen
        · exact .update fun h =>
            { h with
              serialized := by simp only [h.serialized] }
        · exact fun _ =>
            Connection.destroyBy_mirrors hCarries id

theorem openInBy_mirrors
    (hPatient : m.Patient)
    (hCarries : m.Carries order order')
    (c : Nat)
    (path : Bytes)
    (options : ConnectionOptions) :
    Attempt.Mirrors (E := E) m Eq
      (openInBy order c path options)
      (openInBy order' c path options) := by
  apply Attempt.Mirrors.andThen
    (.lift (vacateConnectionBy_mirrors hCarries c))
  intro _
  apply Attempt.Mirrors.andThen
    (Connection.openAt_mirrors hPatient path options)
  exact fun id => .update fun h =>
    { h with plain := by simp only [h.plain] }

theorem serializeInBy_mirrors
    (hCarries : m.Carries order order')
    (z : Nat)
    (c : Option Nat) :
    Attempt.Mirrors (E := E) m Eq (serializeInBy order z c)
      (serializeInBy order' z c) := by
  cases c with
  | none =>
      exact .andThen
        (.lift (vacateSerializedBy_mirrors hCarries z))
        fun _ => .refuse _
  | some c =>
      apply Attempt.Mirrors.andThen (connectionIn_mirrors c)
      intro id
      apply Attempt.Mirrors.andThen
        (.lift (vacateSerializedBy_mirrors hCarries z))
      exact fun _ => .update fun h =>
        { h with
          plain := by simp only [h.plain]
          serialized := by simp only [h.serialized] }

end Ordered

------------------------------------------------------------
-- All Operations
------------------------------------------------------------

/- The slots of statements that an operation names. -/
def statementSlots : Operation → List Nat
  | prepare _ s _ => [s]
  | assignPrepared _ s _ => [s]
  | moveStatement source target => [source, target]
  | assignStatement source target => [source, target]
  | dropStatement s => [s]
  | fetch s _ => [s]
  | statement s _ => [s]
  | prepareSerialized _ s _ => [s]
  | _ => []

/- An operation with the slots of statements replaced. -/
def onImages (f : Nat → Nat) : Operation → Operation
  | prepare c s sql => prepare c (f s) sql
  | assignPrepared c s sql => assignPrepared c (f s) sql
  | moveStatement source target =>
      moveStatement (f source) (f target)
  | assignStatement source target =>
      assignStatement (f source) (f target)
  | dropStatement s => dropStatement (f s)
  | fetch s r => fetch (f s) r
  | statement s r => statement (f s) r
  | prepareSerialized z s sql => prepareSerialized z (f s) sql
  | op => op

/- Whether an operation is a request to the log. -/
def isLogging : Operation → Bool
  | log _ => true
  | _ => false

/-
  An operation on worlds that mirror each other gives the
  same reply if it is carried out on the images of its slots,
  none of which is spare, and is no request to the log.
-/
theorem performBy_mirrors
    {order order' : Place → Nat}
    (hPatient : m.Patient)
    (hCarries : m.Carries order order')
    {op : Operation}
    (hBeside : op.isLogging = false)
    (hUses : ∀ n ∈ op.statementSlots, ¬ m.spare n) :
    Attempt.Mirrors (E := E) m Eq (op.performBy order)
      ((op.onImages m.slot).performBy order') := by
  cases op with
  | library r => exact r.perform_mirrors
  | log r => cases hBeside
  | openConnection c path options =>
      exact Reply.after_mirrors
        (openInBy_mirrors hPatient hCarries c path options)
  | dropConnection c =>
      exact .andThen (connectionIn_mirrors c) fun _ =>
        .map (.lift (vacateConnectionBy_mirrors hCarries c))
  | connection c r =>
      exact .andThen (connectionIn_mirrors c)
        fun id => r.perform_mirrors hPatient id
  | copyAll source destination =>
      apply Attempt.Mirrors.andThen
        (connectionIn_mirrors source)
      intro from'
      apply Attempt.Mirrors.andThen
        (connectionIn_mirrors destination)
      exact fun to' => Reply.after_mirrors
        (Backup.copyAll_mirrors from' to')
  | prepare c s sql =>
      have hSlot : ¬ m.spare s := hUses s (by simp [statementSlots])
      exact .andThen (connectionIn_mirrors c) fun id =>
        Reply.after_mirrors (prepareIn_mirrors hSlot id sql)
  | assignPrepared c s sql =>
      have hSlot : ¬ m.spare s := hUses s (by simp [statementSlots])
      exact Reply.after_mirrors
        (assignPreparedIn_mirrors hSlot c sql)
  | moveStatement source target =>
      have hTarget : ¬ m.spare target :=
        hUses target (by simp [statementSlots])
      apply relocate_mirrors
        (statementIn_mirrors
          (hUses source (by simp [statementSlots])))
        ⟨m.injective, congrArg m.slot⟩
        (Statement.destroy_mirrors (p := .slot target) hTarget)
      rintro p _ ⟨rfl, hPlace⟩
      exact Statement.move_mirrors hPlace
        (q := .slot target) hTarget
  | assignStatement source target =>
      apply overwrite_mirrors
        (statementIn_mirrors
          (hUses source (by simp [statementSlots])))
        (statementIn_mirrors
          (hUses target (by simp [statementSlots])))
      rintro p _ q _ ⟨rfl, hPlace⟩ ⟨rfl, hTarget⟩
      exact Statement.assign_mirrors hPlace hTarget
  | dropStatement s =>
      apply discard_mirrors (statementIn_mirrors
        (hUses s (by simp [statementSlots])))
      rintro p _ ⟨rfl, hPlace⟩
      exact Statement.destroy_mirrors hPlace
  | fetch s r =>
      exact Reply.of_mirrors (fetchIn_mirrors
        (hUses s (by simp [statementSlots])) r)
  | statement s r =>
      apply Attempt.Mirrors.bind (statementIn_mirrors
        (hUses s (by simp [statementSlots])))
      rintro p _ ⟨rfl, hPlace⟩
      exact r.perform_mirrors hPatient hPlace
  | row r q =>
      exact .andThen (rowIn_mirrors r)
        fun row => q.perform_mirrors row
  | begin c t type =>
      exact Reply.after_mirrors
        (beginIn_mirrors hPatient c t type)
  | moveTransaction source target =>
      apply relocate_mirrors (transactionIn_mirrors source)
        Iff.rfl (Transaction.destroy_mirrors _ hPatient)
      rintro p _ rfl
      exact Transaction.transfer_mirrors p _
  | assignTransaction source target =>
      apply overwrite_mirrors (transactionIn_mirrors source)
        (transactionIn_mirrors target)
      rintro p _ q _ rfl rfl
      exact Transaction.assign_mirrors p q hPatient
  | dropTransaction t =>
      apply discard_mirrors (transactionIn_mirrors t)
      rintro p _ rfl
      exact Transaction.destroy_mirrors p hPatient
  | transaction t r =>
      exact .andThen (transactionIn_mirrors t)
        fun p => r.perform_mirrors hPatient p
  | savepoint t p name =>
      exact Reply.after_mirrors
        (savepointInside_mirrors hPatient t p name)
  | savepointOn c p name =>
      exact Reply.after_mirrors
        (savepointDirect_mirrors hPatient c p name)
  | moveSavepoint source target =>
      apply relocate_mirrors (savepointIn_mirrors source)
        Iff.rfl (Savepoint.destroy_mirrors _ hPatient)
      rintro p _ rfl
      exact Savepoint.transfer_mirrors p _
  | assignSavepoint source target =>
      apply overwrite_mirrors (savepointIn_mirrors source)
        (savepointIn_mirrors target)
      rintro p _ q _ rfl rfl
      exact Savepoint.assign_mirrors p q hPatient
  | dropSavepoint p =>
      apply discard_mirrors (savepointIn_mirrors p)
      rintro p _ rfl
      exact Savepoint.destroy_mirrors p hPatient
  | askSavepoint p r =>
      exact .andThen (savepointIn_mirrors p)
        fun p => r.perform_mirrors hPatient p
  | startBackup b source destination first second =>
      exact Reply.after_mirrors
        (backupBetween_mirrors b source destination first
          second)
  | dropBackup b =>
      apply discard_mirrors (backupIn_mirrors b)
      rintro p _ rfl
      exact Backup.destroy_mirrors p
  | backup b r =>
      exact .andThen (backupIn_mirrors b)
        fun p => r.perform_mirrors p
  | serialize z c =>
      exact Reply.after_mirrors
        (serializeInBy_mirrors hCarries z c)
  | prepareSerialized z s sql =>
      have hSlot : ¬ m.spare s := hUses s (by simp [statementSlots])
      exact .andThen (serializedIn_mirrors z) fun id =>
        Reply.after_mirrors (prepareIn_mirrors hSlot id sql)
  | dropSerialized z =>
      exact .andThen (serializedIn_mirrors z) fun _ =>
        .map (.lift (vacateSerializedBy_mirrors hCarries z))
  | serialized z r =>
      exact .andThen (serializedIn_mirrors z)
        fun id => r.perform_mirrors hPatient id

/- So does every operation if the log is the same, too. -/
theorem performBy_sessions
    {order order' : Place → Nat}
    {s s' : Session E}
    (hPatient : m.Patient)
    (hCarries : m.Carries order order')
    (hMirrors : s.Mirrors m s')
    (op : Operation)
    (hUses : ∀ n ∈ op.statementSlots, ¬ m.spare n) :
    (((op.onImages m.slot).performBy order').run s').1 =
        ((op.performBy order).run s).1 ∧
      ((op.performBy order).run s).2.Mirrors m
        (((op.onImages m.slot).performBy order').run s').2 := by
  cases hLogging : op.isLogging with
  | true =>
      cases op with
      | log r => exact r.perform_sessions hMirrors
      | _ => cases hLogging
  | false =>
      rcases (performBy_mirrors hPatient hCarries hLogging
        hUses).sessions hMirrors with ⟨hReply, hAfter⟩
      exact ⟨hReply.eq.symm, hAfter⟩

end Operation

------------------------------------------------------------
-- Runs
------------------------------------------------------------

namespace Session

/-
  Carry out operations; connections that they destroy
  finalize their statements in a given order.
-/
def runAllBy
    (order : Place → Nat)
    (s : Session E) :
    List Operation →
      List (Except Failure Reply) × Session E
  | [] => ([], s)
  | op :: r =>
      let (reply, s) := (op.performBy order).run s
      let (replies, s) := runAllBy order s r
      (reply :: replies, s)

/- What operations lead to is where others start. -/
theorem runAll_append
    (s : Session E)
    (ops later : List Operation) :
    (s.runAll (ops ++ later)).2 =
      ((s.runAll ops).2.runAll later).2 := by
  induction ops generalizing s with
  | nil => rfl
  | cons op ops ih => exact ih _

/- Operations go by the rank of places. -/
@[simp]
theorem runAllBy_rank
    (s : Session E)
    (ops : List Operation) :
    s.runAllBy Place.rank ops = s.runAll ops := by
  induction ops generalizing s with
  | nil => rfl
  | cons op ops ih =>
      simp only [runAllBy, runAll, run,
        Operation.performBy_rank, ih]
      rfl

/- So do all that cannot destroy a connection. -/
theorem runAllBy_of_kept
    (order : Place → Nat)
    (s : Session E)
    {ops : List Operation}
    (hKept : ∀ op ∈ ops, op.mayDestroyConnection = false) :
    s.runAllBy order ops = s.runAll ops := by
  induction ops generalizing s with
  | nil => rfl
  | cons op ops ih =>
      have hFirst := hKept op List.mem_cons_self
      have hRest := fun s => ih s fun op' hMember =>
        hKept op' (List.mem_cons_of_mem op hMember)
      simp only [runAllBy, runAll, run, hRest,
        Operation.performBy_of_kept hFirst]
      rfl

/-
  Operations on sessions that mirror each other give the same
  replies if they are carried out on the images of their
  slots, and leave such sessions.
-/
theorem runAllBy_mirrors
    {order order' : Place → Nat}
    {s s' : Session E}
    (hPatient : m.Patient)
    (hCarries : m.Carries order order')
    (hMirrors : s.Mirrors m s')
    (ops : List Operation)
    (hUses : ∀ op ∈ ops, ∀ n ∈ op.statementSlots,
      ¬ m.spare n) :
    (s'.runAllBy order' (ops.map (·.onImages m.slot))).1 =
        (s.runAllBy order ops).1 ∧
      (s.runAllBy order ops).2.Mirrors m
        (s'.runAllBy order'
          (ops.map (·.onImages m.slot))).2 := by
  induction ops generalizing s s' with
  | nil => exact ⟨rfl, hMirrors⟩
  | cons op ops ih =>
      rcases Operation.performBy_sessions hPatient hCarries
          hMirrors op (hUses op List.mem_cons_self) with
        ⟨hReply, hAfter⟩
      rcases ih hAfter fun op' hMember =>
          hUses op' (List.mem_cons_of_mem op hMember) with
        ⟨hReplies, hLast⟩
      exact ⟨List.cons_eq_cons.mpr ⟨hReply, hReplies⟩, hLast⟩

end Session

end SqliteAccess
