import SqliteAccess.Proofs.Backup.Mirroring
import SqliteAccess.Proofs.Connection.Configuring

/-
  Connections of sessions that mirror each other.

  A connection does the same in both sessions.  When it is
  destroyed with live statements, it finalizes them in the
  order of their places, so the order has to be carried over
  to the images.

  Key definitions include:
    * `Connection.releaseChildrenBy`
    * `Connection.destroyBy`
    * `Mirror.Carries`

  The connections are characterized by:
    * `Library.release_mirrors`
    * `Connection.executeBatch_mirrors`
    * `Connection.close_mirrors`
    * `Connection.destroyBy_rank`
    * `Connection.destroyBy_mirrors`
    * `Connection.openAt_mirrors`
-/

namespace SqliteAccess

variable {E : Engine} {m : Mirror}

open Quiet Attempt

------------------------------------------------------------
-- The Library
------------------------------------------------------------

namespace Library

theorem modify_mirrors (f : Library → Library) :
    Quiet.Mirrors (E := E) m Eq
      (update (World.modifyLibrary f))
      (update (World.modifyLibrary f)) := by
  apply Quiet.Mirrors.update
  intro w w' h
  exact { h with library := congrArg f h.library }

theorem start_mirrors :
    Attempt.Mirrors (E := E) m Eq start start := by
  apply Attempt.Mirrors.andThen (.lift (modify_mirrors _))
  intro _
  apply Attempt.Mirrors.andThen
  · exact .read fun h =>
      congrArg Library.started h.library.symm
  · intro started
    apply Attempt.Mirrors.ite _ (.pure rfl)
    apply Attempt.Mirrors.andThen (.invoke _)
    intro code
    apply Attempt.Mirrors.optional
    · apply Attempt.Mirrors.andThen
        (.lift (modify_mirrors _))
      intro _
      exact .andThen (.invoke .version)
        fun version => .lift (.note _ _ _)
    · exact fun hStarted =>
        .andThen (.throw _) fun _ => hStarted

theorem stopNow_mirrors :
    Quiet.Mirrors (E := E) m Eq stopNow stopNow := by
  apply Quiet.Mirrors.andThen (.invoke _)
  intro code
  apply Quiet.Mirrors.ite
  · exact .andThen (.note _ _ _) fun _ => .pure rfl
  · apply Quiet.Mirrors.andThen (modify_mirrors _)
    intro _
    exact .andThen (.note _ _ _) fun _ => .pure rfl

theorem stop_mirrors :
    Quiet.Mirrors (E := E) m Eq stop stop := by
  apply Quiet.Mirrors.andThen (.read fun h => h.library.symm)
  intro library
  apply Quiet.Mirrors.ite
  · exact .andThen (modify_mirrors _) fun _ => .pure rfl
  · apply Quiet.Mirrors.ite
    · exact .andThen (modify_mirrors _) fun _ => .pure rfl
    · exact stopNow_mirrors

theorem hold_mirrors :
    Attempt.Mirrors (E := E) m Eq hold hold :=
  .andThen start_mirrors fun _ => .lift (modify_mirrors _)

theorem release_mirrors :
    Quiet.Mirrors (E := E) m Eq release release := by
  apply Quiet.Mirrors.andThen (modify_mirrors _)
  intro _
  apply Quiet.Mirrors.andThen (.read fun h => h.library.symm)
  intro library
  exact .ite (.andThen stop_mirrors fun _ => .pure rfl)
    (.pure rfl)

end Library

namespace Connection

------------------------------------------------------------
-- Settings
------------------------------------------------------------

theorem setConfig_mirrors
    (c : ConnectionId)
    (flag : ConfigFlag)
    (on : Bool) :
    Attempt.Mirrors (E := E) m Eq (setConfig c flag on)
      (setConfig c flag on) := by
  apply Attempt.Mirrors.andThen (requireOpen_mirrors c _)
  intro db
  exact .andThen (.invoke (.configure db _ _))
    fun answer => check_mirrors _ _ _ _

theorem getConfig_mirrors
    (c : ConnectionId)
    (flag : ConfigFlag) :
    Attempt.Mirrors (E := E) m Eq (getConfig c flag)
      (getConfig c flag) := by
  apply Attempt.Mirrors.andThen (requireOpen_mirrors c _)
  intro db
  apply Attempt.Mirrors.andThen (.invoke _)
  intro answer
  exact .andThen (check_mirrors _ _ _ _) fun _ => .pure rfl

theorem setBusyTimeout_mirrors
    (c : ConnectionId)
    (milliseconds : Int) :
    Attempt.Mirrors (E := E) m Eq
      (setBusyTimeout c milliseconds)
      (setBusyTimeout c milliseconds) := by
  apply Attempt.Mirrors.andThen (requireOpen_mirrors c _)
  intro db
  apply Attempt.Mirrors.andThen (.require _ _)
  intro _
  exact .andThen (.invoke (.busyTimeout db _))
    fun code => check_mirrors _ _ _ _

theorem setExtendedCodes_mirrors
    (c : ConnectionId)
    (on : Bool) :
    Attempt.Mirrors (E := E) m Eq (setExtendedCodes c on)
      (setExtendedCodes c on) := by
  apply Attempt.Mirrors.bind (.lift (lookup_mirrors c))
  intro conn conn' hMirrors
  rw [hMirrors.handle]
  cases conn.handle with
  | none => exact .pure rfl
  | some db =>
      exact .andThen (.invoke (.extendedCodes db on))
        fun code => check_mirrors _ _ _ _

theorem interrupt_mirrors (c : ConnectionId) :
    Quiet.Mirrors (E := E) m Eq (interrupt c)
      (interrupt c) := by
  apply Quiet.Mirrors.bind (lookup_mirrors c)
  intro conn conn' hMirrors
  rw [hMirrors.handle]
  cases conn.handle with
  | none => exact .pure rfl
  | some db => exact .invoke (.interrupt db)

theorem isAutocommit_mirrors (c : ConnectionId) :
    Attempt.Mirrors (E := E) m Eq (isAutocommit c)
      (isAutocommit c) :=
  .andThen (requireOpen_mirrors c _)
    fun db => .invoke (.autocommit db)

theorem transactionState_mirrors
    (c : ConnectionId)
    (schema : Bytes) :
    Attempt.Mirrors (E := E) m Eq
      (transactionState c schema)
      (transactionState c schema) :=
  .andThen (requireOpen_mirrors c _)
    fun db => .map (.invoke (.transactionState db _))

theorem isReadOnly_mirrors
    (c : ConnectionId)
    (schema : Bytes) :
    Attempt.Mirrors (E := E) m Eq (isReadOnly c schema)
      (isReadOnly c schema) :=
  .andThen (requireOpen_mirrors c _)
    fun db => .map (.invoke (.readOnlySchema db _))

theorem lastRowId_mirrors (c : ConnectionId) :
    Attempt.Mirrors (E := E) m Eq (lastRowId c)
      (lastRowId c) :=
  .andThen (requireOpen_mirrors c _)
    fun db => .invoke (.lastRowId db)

theorem changes_mirrors (c : ConnectionId) :
    Attempt.Mirrors (E := E) m Eq (changes c) (changes c) :=
  .andThen (requireOpen_mirrors c _)
    fun db => .invoke (.changes db)

theorem totalChanges_mirrors (c : ConnectionId) :
    Attempt.Mirrors (E := E) m Eq (totalChanges c)
      (totalChanges c) :=
  .andThen (requireOpen_mirrors c _)
    fun db => .invoke (.totalChanges db)

------------------------------------------------------------
-- Running Texts
------------------------------------------------------------

theorem patience_mirrors
    (hPatient : m.Patient) :
    Attempt.Mirrors (E := E) m Eq (lift (read (·.patience)))
      (lift (read (·.patience))) :=
  .read fun h => (hPatient _ _ h.patience).symm

theorem execute_mirrors
    (hPatient : m.Patient)
    (c : ConnectionId)
    (sql : Bytes) :
    Attempt.Mirrors (E := E) m Eq (execute c sql)
      (execute c sql) := by
  apply Statement.within_mirrors
  apply Attempt.Mirrors.andThen
    (.lift (Statement.lookup_mirrors (p := .scratch) trivial))
  intro s
  exact .andThen (.require _ _) fun _ =>
    Statement.execute_mirrors hPatient (p := .scratch) trivial

theorem executeFirst_mirrors
    (hPatient : m.Patient)
    (c : ConnectionId)
    (sql : Bytes) :
    Attempt.Mirrors (E := E) m Eq (executeFirst c sql)
      (executeFirst c sql) := by
  apply Statement.within_mirrors
  apply Attempt.Mirrors.andThen
    (.lift (Statement.lookup_mirrors (p := .scratch) trivial))
  intro s
  apply Attempt.Mirrors.andThen
    (Statement.execute_mirrors hPatient (p := .scratch)
      trivial)
  intro _
  apply Attempt.Mirrors.andThen
    (.lift (Statement.finalize_mirrors (p := .scratch)
      trivial))
  exact fun _ => .pure rfl

theorem executeUpTo_mirrors
    (hPatient : m.Patient)
    (c : ConnectionId)
    (n : Nat)
    (sql : Bytes) :
    Attempt.Mirrors (E := E) m Eq (executeUpTo c n sql)
      (executeUpTo c n sql) := by
  induction n generalizing sql with
  | zero => exact .throw _
  | succ n ih =>
      apply Attempt.Mirrors.ite _ (.pure rfl)
      exact .andThen (executeFirst_mirrors hPatient c _)
        fun consumed => ih _

theorem executeBatch_mirrors
    (hPatient : m.Patient)
    (c : ConnectionId)
    (sql : Bytes) :
    Attempt.Mirrors (E := E) m Eq (executeBatch c sql)
      (executeBatch c sql) :=
  .andThen (patience_mirrors hPatient)
    fun n => executeUpTo_mirrors hPatient c n sql

theorem tableExists_mirrors
    (c : ConnectionId)
    (name : Bytes) :
    Attempt.Mirrors (E := E) m Eq (tableExists c name)
      (tableExists c name) := by
  apply Statement.within_mirrors
  exact .andThen
    (Statement.bindText_mirrors (p := .scratch) trivial 1
      name)
    fun _ => Statement.next_mirrors (p := .scratch) trivial

theorem pragma_mirrors
    (c : ConnectionId)
    (name : Bytes) :
    Attempt.Mirrors (E := E) m Eq (pragma c name)
      (pragma c name) := by
  apply Attempt.Mirrors.andThen (.accept _)
  intro _
  apply Statement.within_mirrors
  apply Attempt.Mirrors.andThen
    (Statement.step_mirrors (p := .scratch) trivial)
  intro result
  apply Attempt.Mirrors.ite (.pure rfl)
  apply Attempt.Mirrors.andThen
    (Statement.columnCount_mirrors (p := .scratch) trivial)
  intro count
  exact .ite (.pure rfl)
    (Statement.columnValue_mirrors (p := .scratch) trivial 0)

theorem setPragma_mirrors
    (hPatient : m.Patient)
    (c : ConnectionId)
    (name : Bytes)
    (v : Value) :
    Attempt.Mirrors (E := E) m Eq (setPragma c name v)
      (setPragma c name v) := by
  apply Attempt.Mirrors.andThen (.accept _)
  intro _
  apply Attempt.Mirrors.andThen (.accept _)
  intro literal
  apply Statement.within_mirrors
  exact .andThen (patience_mirrors hPatient) fun n =>
    Statement.drain_mirrors (p := .scratch) trivial n

------------------------------------------------------------
-- Closing
------------------------------------------------------------

/- A connection is changed in both sessions. -/
theorem modify_mirrors
    {f : Connection → Connection}
    (c : ConnectionId)
    (hChange : ∀ {conn conn'},
      Connection.Mirrors m conn conn' →
        Connection.Mirrors m (f conn) (f conn')) :
    Quiet.Mirrors (E := E) m Eq
      (update (World.modifyConnection c f))
      (update (World.modifyConnection c f)) := by
  apply Quiet.Mirrors.update
  intro w w' h
  rw [World.modifyConnection_eq, World.modifyConnection_eq]
  exact
    { h with connections := h.connections.modify c hChange }

theorem withoutHandle_mirrors (c : ConnectionId) :
    Quiet.Mirrors (E := E) m Eq
      (update (World.modifyConnection c withoutHandle))
      (update (World.modifyConnection c withoutHandle)) :=
  modify_mirrors c fun h => { h with handle := rfl }

theorem noteClosed_mirrors (c : ConnectionId) :
    Quiet.Mirrors (E := E) m Eq (noteClosed c)
      (noteClosed c) := by
  apply Quiet.Mirrors.bind (lookup_mirrors c)
  intro conn conn' hMirrors
  rw [hMirrors.path]
  exact .note _ _ _

/- The engine names the same statements. -/
theorem finalizeLeft_mirrors
    (db : DatabaseHandle)
    (n : Nat) :
    Quiet.Mirrors (E := E) m Eq (finalizeLeft db n)
      (finalizeLeft db n) := by
  induction n with
  | zero => exact .pure rfl
  | succ n ih =>
      apply Quiet.Mirrors.andThen
      · exact .read fun h =>
          congrArg (·.unfinalizedOn db) h.trace.symm
      · intro left
        apply Quiet.Mirrors.andThen
          (.invoke (.nextStatement db left))
        intro next
        rcases next.val with _ | st
        · exact .pure rfl
        · exact .andThen (.invoke (.finalize st)) fun _ => ih

theorem closeStubborn_mirrors
    (db : DatabaseHandle)
    (path : Bytes) :
    Quiet.Mirrors (E := E) m Eq (closeStubborn db path)
      (closeStubborn db path) := by
  apply Quiet.Mirrors.andThen (.invoke (.close db))
  intro code
  apply Quiet.Mirrors.ite (.pure rfl)
  apply Quiet.Mirrors.andThen (.note _ _ _)
  intro _
  apply Quiet.Mirrors.andThen
  · exact .read fun h =>
      congrArg (·.unfinalizedOn db) h.trace.symm
  · intro l
    exact .andThen (finalizeLeft_mirrors db (l.length + 1))
      fun _ => .invoke (.close db)

theorem releaseHandle_mirrors (c : ConnectionId) :
    Quiet.Mirrors (E := E) m Eq (releaseHandle c)
      (releaseHandle c) := by
  apply Quiet.Mirrors.bind (lookup_mirrors c)
  intro conn conn' hMirrors
  rw [hMirrors.handle, hMirrors.path]
  cases conn.handle with
  | none => exact .pure rfl
  | some db =>
      apply Quiet.Mirrors.andThen
        (closeStubborn_mirrors db conn.path)
      intro code
      apply Quiet.Mirrors.optional
      · exact .andThen (withoutHandle_mirrors c)
          fun _ => noteClosed_mirrors c
      · intro hForgotten
        apply Quiet.Mirrors.andThen (.note _ _ _)
        intro _
        exact .andThen (.invoke (.closeLater db))
          fun _ => hForgotten

theorem close_mirrors (c : ConnectionId) :
    Attempt.Mirrors (E := E) m Eq (close c) (close c) := by
  apply Attempt.Mirrors.bind (.lift (lookup_mirrors c))
  intro conn conn' hMirrors
  rw [hMirrors.handle, hMirrors.hasChildren, hMirrors.count,
    hMirrors.backups]
  cases conn.handle with
  | none => exact .pure rfl
  | some db =>
      apply Attempt.Mirrors.andThen (.require _ _)
      intro _
      apply Attempt.Mirrors.andThen (.invoke (.close db))
      intro code
      apply Attempt.Mirrors.andThen (check_mirrors _ _ _ _)
      intro _
      exact .andThen (.lift (withoutHandle_mirrors c))
        fun _ => .lift (noteClosed_mirrors c)

------------------------------------------------------------
-- Destroying in an Order
------------------------------------------------------------

/-
  Finalize what is live, the backups first, and statements in
  a given order of their places.
-/
def releaseChildrenBy
    (order : Place → Nat)
    (c : ConnectionId) : Quiet E Unit := do
  let conn ← lookup c
  update (World.modifyConnection c childless)
  each (Backup.detach c)
    (Ascending.sort Place.rank conn.backups)
  each Statement.detach
    (Ascending.sort order conn.statements)

/- Close a connection, statements in a given order. -/
def shutBy
    (order : Place → Nat)
    (c : ConnectionId) : Quiet E Unit := do
  let conn ← lookup c
  if conn.isOpen then
    if conn.hasChildren then
      note .warning
        "connection destroyed with live handles, finalizing them"
        [.ofText "path" conn.path,
          .ofInt "statements" conn.statements.length,
          .ofInt "backups" conn.backups.length]
      releaseChildrenBy order c
    releaseHandle c

/- Destroy a connection, statements in a given order. -/
def destroyBy
    (order : Place → Nat)
    (c : ConnectionId) : Quiet E Unit := do
  shutBy order c
  update (forget c)
  Library.release

/- Connections go by the rank of places. -/
@[simp]
theorem destroyBy_rank (c : ConnectionId) :
    destroyBy (E := E) Place.rank c = destroy c := rfl

end Connection

/- No two places have the same rank. -/
theorem Place.rank_inj
    {p q : Place}
    (hSame : p.rank = q.rank) :
    p = q := by
  cases p <;> cases q <;> simp_all [rank]

/-
  Whether an order of places is carried over to their images,
  without giving two places the same rank.
-/
structure Mirror.Carries
    (m : Mirror)
    (order order' : Place → Nat) : Prop where
  injective : ∀ {p q}, order' p = order' q → p = q
  image : ∀ p, order' (m.place p) = order p

/- The images of listed statements, in the order of these. -/
theorem Mirror.Carries.sort
    {order order' : Place → Nat}
    {l l' : List Place}
    (hCarries : m.Carries order order')
    (hImages : l'.Perm (l.map m.place)) :
    Ascending.sort order' l' =
      (Ascending.sort order l).map m.place := by
  rw [Ascending.sort_eq_of_perm hCarries.injective hImages,
    Ascending.sort_map]
  congr
  funext p
  exact hCarries.image p

namespace Connection

variable {order order' : Place → Nat}

theorem releaseChildrenBy_mirrors
    (hCarries : m.Carries order order')
    (c : ConnectionId) :
    Quiet.Mirrors (E := E) m Eq (releaseChildrenBy order c)
      (releaseChildrenBy order' c) := by
  apply Quiet.Mirrors.bind (lookup_mirrors c)
  intro conn conn' hMirrors
  rw [hMirrors.backups, hCarries.sort hMirrors.statements]
  apply Quiet.Mirrors.andThen
  · exact modify_mirrors c fun h =>
      { h with
        backups := rfl
        statements := .refl _
        used := nofun }
  · intro _
    apply Quiet.Mirrors.andThen
    · have hEach := Quiet.Mirrors.each (E := E) (m := m)
        (h := id) (l := Ascending.sort Place.rank conn.backups)
        fun p _ => Backup.detach_mirrors p c
      rw [List.map_id] at hEach
      exact hEach
    · intro _
      apply Quiet.Mirrors.each
      intro p hMember
      exact Statement.detach_mirrors
        (hMirrors.used p ((Ascending.mem_sort _ _ _).mp hMember))

theorem shutBy_mirrors
    (hCarries : m.Carries order order')
    (c : ConnectionId) :
    Quiet.Mirrors (E := E) m Eq (shutBy order c)
      (shutBy order' c) := by
  apply Quiet.Mirrors.bind (lookup_mirrors c)
  intro conn conn' hMirrors
  unfold isOpen
  rw [hMirrors.handle, hMirrors.hasChildren, hMirrors.path,
    hMirrors.count, hMirrors.backups]
  apply Quiet.Mirrors.ite _ (.pure rfl)
  apply Quiet.Mirrors.optional (releaseHandle_mirrors c)
  intro hReleased
  apply Quiet.Mirrors.andThen (.note _ _ _)
  intro _
  exact .andThen (releaseChildrenBy_mirrors hCarries c)
    fun _ => hReleased

theorem forget_mirrors (c : ConnectionId) :
    Quiet.Mirrors (E := E) m Eq (update (forget c))
      (update (forget c)) :=
  .update fun h =>
    { h with connections := h.connections.erase c }

theorem destroyBy_mirrors
    (hCarries : m.Carries order order')
    (c : ConnectionId) :
    Quiet.Mirrors (E := E) m Eq (destroyBy order c)
      (destroyBy order' c) := by
  apply Quiet.Mirrors.andThen (shutBy_mirrors hCarries c)
  intro _
  exact .andThen (forget_mirrors c)
    fun _ => Library.release_mirrors

------------------------------------------------------------
-- Opening
------------------------------------------------------------

theorem openingError_mirrors
    (db : DatabaseHandle)
    (path : Bytes)
    (answer : OpenAnswer) :
    Quiet.Mirrors (E := E) m Eq
      (openingError db path answer)
      (openingError db path answer) := by
  apply Quiet.Mirrors.ite
  · apply Quiet.Mirrors.andThen
      (.invoke (.extendedErrorCode db))
    intro code
    apply Quiet.Mirrors.andThen (.invoke (.errorMessage db))
    intro reason
    apply Quiet.Mirrors.andThen (.invoke (.close db))
    exact fun _ => .pure rfl
  · exact .pure rfl

theorem openHandle_mirrors
    (path : Bytes)
    (flags : OpenFlags) :
    Attempt.Mirrors (E := E) m Eq (openHandle path flags)
      (openHandle path flags) := by
  apply Attempt.Mirrors.andThen
  · exact .read fun h =>
      congrArg Issued.databases h.issued.symm
  · intro issued
    apply Attempt.Mirrors.andThen (.invoke _)
    intro answer
    apply Attempt.Mirrors.optional
    · apply Attempt.Mirrors.optional (.pure rfl)
      intro hOpened
      apply Attempt.Mirrors.andThen
        (.lift (openingError_mirrors _ path answer))
      exact fun e => .andThen (.throw _) fun _ => hOpened
    · intro hOpened
      apply Attempt.Mirrors.andThen
      · exact .update fun h =>
          { h with issued := by simp only [h.issued] }
      · exact fun _ => hOpened

theorem register_mirrors
    (c : ConnectionId)
    (db : DatabaseHandle)
    (path : Bytes)
    (options : ConnectionOptions) :
    Quiet.Mirrors (E := E) m Eq
      (update (register c db path options))
      (update (register c db path options)) := by
  apply Quiet.Mirrors.update
  intro w w' h
  exact
    { h with
      issued := by simp only [register, h.issued]
      connections := h.connections.put c (.of_nil rfl) }

theorem applySetting_mirrors
    (hPatient : m.Patient)
    (c : ConnectionId)
    (x : Setting) :
    Attempt.Mirrors (E := E) m Eq (Setting.apply c x)
      (Setting.apply c x) := by
  cases x with
  | extendedCodes on => exact setExtendedCodes_mirrors c on
  | busyTimeout t => exact setBusyTimeout_mirrors c t
  | switch flag on => exact setConfig_mirrors c flag on
  | statement sql =>
      exact .map (execute_mirrors hPatient c sql)
  | pragma sql =>
      unfold Setting.apply
      apply Statement.within_mirrors
      exact .andThen (patience_mirrors hPatient) fun n =>
        Statement.drain_mirrors (p := .scratch) trivial n

theorem applyOptions_mirrors
    (hPatient : m.Patient)
    (c : ConnectionId)
    (options : ConnectionOptions) :
    Attempt.Mirrors (E := E) m Eq (applyOptions c options)
      (applyOptions c options) := by
  rw [applyOptions_eq]
  induction options.settings with
  | nil => exact .pure rfl
  | cons x l ih =>
      exact .andThen (applySetting_mirrors hPatient c x)
        fun _ => ih

theorem establish_mirrors
    (hPatient : m.Patient)
    (path : Bytes)
    (options : ConnectionOptions) :
    Attempt.Mirrors (E := E) m Eq (establish path options)
      (establish path options) := by
  apply Attempt.Mirrors.andThen (.accept _)
  intro flags
  apply Attempt.Mirrors.andThen (openHandle_mirrors path flags)
  intro db
  apply Attempt.Mirrors.andThen
  · exact .read fun h =>
      congrArg Issued.connections h.issued.symm
  · intro issued
    apply Attempt.Mirrors.andThen
      (.lift (register_mirrors _ db path options))
    intro _
    apply Attempt.Mirrors.andThen
    · exact .onFailure
        (applyOptions_mirrors hPatient _ options)
        (.andThen (releaseHandle_mirrors _)
          fun _ => forget_mirrors _)
    · intro _
      exact .andThen (.lift (.note _ _ _))
        fun _ => .pure rfl

theorem openAt_mirrors
    (hPatient : m.Patient)
    (path : Bytes)
    (options : ConnectionOptions) :
    Attempt.Mirrors (E := E) m Eq (openAt path options)
      (openAt path options) :=
  .andThen Library.hold_mirrors fun _ =>
    .onFailure (establish_mirrors hPatient path options)
      Library.release_mirrors

end Connection

end SqliteAccess
