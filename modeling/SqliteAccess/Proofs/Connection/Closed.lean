import SqliteAccess.Proofs.Connection.Sending
import SqliteAccess.Proofs.Statement.Finalized
import SqliteAccess.Proofs.Text.Blank
import SqliteAccess.Proofs.Transaction.Calls

/-
  What a closed connection is used for is refused.

  Whatever needs an open connection asks for it, or is
  refused for another broken rule of use, before it does
  anything.  The one exception is a batch without a
  statement, which asks for nothing.

  Key definitions include:
    * `Attempt.NeedsOpen`
    * `ConnectionRequest.needsOpen`
    * `Session.Uses`
    * `Session.Barred`

  Closed connections are characterized by:
    * `ConnectionRequest.perform_needsOpen`
    * `Session.Uses.misused`
    * `Connection.executeBatch_of_blank`
    * `Session.closed_bars_use`
-/

namespace SqliteAccess

variable {E : Engine} {α β : Type}
variable {c : ConnectionId} {s : Session E}

open Quiet Attempt

------------------------------------------------------------
-- Attempts That Need a Connection
------------------------------------------------------------

/-
  Whether an attempt is refused at once as a misuse, and
  nothing is done.
-/
def Session.Misused
    (s : Session E)
    (x : Attempt E α) : Prop :=
  ∃ r : Refusal, r.error.kind = .usage ∧
    x.run s = (.error (.database r.error), s)

namespace Session.Misused

variable {x : Attempt E α} {k : α → Attempt E β}

/- Nothing follows a misuse. -/
theorem bind (h : s.Misused x) :
    s.Misused (x >>= k) := by
  rcases h with ⟨r, hUsage, hRun⟩
  exact ⟨r, hUsage, run_bind_of_error hRun⟩

/- The misuse comes after something that has no effect. -/
theorem after
    {a : α}
    (hRun : x.run s = (.ok a, s))
    (h : s.Misused (k a)) :
    s.Misused (x >>= k) := by
  unfold Misused
  rw [run_bind_of_ok hRun]
  exact h

end Session.Misused

/- Whether an attempt is a misuse of a closed connection. -/
def Attempt.NeedsOpen
    (c : ConnectionId)
    (x : Attempt E α) : Prop :=
  ∀ s : Session E, (s.world.connection c).handle = none →
    s.Misused x

namespace Attempt.NeedsOpen

variable {x : Attempt E α} {k : α → Attempt E β}

/- What begins by needing a connection needs it. -/
theorem bind (h : NeedsOpen c x) :
    NeedsOpen c (x >>= k) :=
  fun s hClosed => (h s hClosed).bind

/- What needs a connection after another check. -/
theorem require
    {k : Unit → Attempt E β}
    (condition : Bool)
    {r : Refusal}
    (hUsage : r.error.kind = .usage)
    (h : NeedsOpen c (k ())) :
    NeedsOpen c (Attempt.require condition r >>= k) := by
  intro s hClosed
  cases condition with
  | true => exact h s hClosed
  | false => exact ⟨r, hUsage, rfl⟩

/- What needs it after a check that may be passed. -/
theorem accept
    {check : Except Refusal α}
    (hUsage : ∀ r, check = .error r → r.error.kind = .usage)
    (h : ∀ a, NeedsOpen c (k a)) :
    NeedsOpen c (Attempt.accept check >>= k) := by
  intro s hClosed
  cases check with
  | ok a => exact h a s hClosed
  | error r => exact ⟨r, hUsage r rfl, rfl⟩

end Attempt.NeedsOpen

------------------------------------------------------------
-- Connections
------------------------------------------------------------

namespace Connection

theorem requireOpen_needsOpen
    (c : ConnectionId)
    (operation : String) :
    NeedsOpen (E := E) c (requireOpen c operation) :=
  fun _ hClosed =>
    ⟨_, rfl, requireOpen_of_closed hClosed operation⟩

/- Another connection may be needed first. -/
theorem requireOpen_bind_needsOpen
    {k : DatabaseHandle → Attempt E α}
    (d : ConnectionId)
    (operation : String)
    (h : ∀ db, NeedsOpen c (k db)) :
    NeedsOpen c (requireOpen d operation >>= k) := by
  intro s hClosed
  cases hHandle : (s.world.connection d).handle with
  | none =>
      exact (requireOpen_needsOpen d operation s hHandle).bind
  | some db =>
      exact .after (requireOpen_of_open hHandle operation)
        (h db s hClosed)

end Connection

/- A name that is no identifier is a misuse. -/
theorem Pragma.requireName_usage
    {name : Bytes}
    {r : Refusal}
    (hRefused : requireName name = .error r) :
    r.error.kind = .usage := by
  unfold requireName at hRefused
  split at hRefused
  case isTrue => cases hRefused
  case isFalse =>
    cases hRefused
    rfl

/- So is a value that cannot be written. -/
theorem Pragma.literal_usage
    {name : Bytes}
    {v : Value}
    {r : Refusal}
    (hRefused : literal name v = .error r) :
    r.error.kind = .usage := by
  unfold literal at hRefused
  split at hRefused
  case h_1 => cases hRefused
  case h_2 =>
    cases hRefused
    rfl

theorem Statement.prepare_needsOpen
    (c : ConnectionId)
    (p : Place)
    (sql : Bytes) :
    NeedsOpen (E := E) c (prepare c p sql) :=
  .bind (Connection.requireOpen_needsOpen c _)

theorem Statement.within_needsOpen
    (c : ConnectionId)
    (sql : Bytes)
    (work : Place → Attempt E α) :
    NeedsOpen c (within c sql work) :=
  .bind (prepare_needsOpen c .scratch sql)

namespace Connection

theorem execute_needsOpen
    (c : ConnectionId)
    (sql : Bytes) :
    NeedsOpen (E := E) c (execute c sql) :=
  Statement.within_needsOpen c sql _

/- A batch needs a connection for its first statement. -/
theorem executeBatch_of_closed
    {sql : Bytes}
    (hClosed : (s.world.connection c).handle = none)
    (hPatience : s.world.patience ≠ 0)
    (hText : Blank.isBlank sql = false) :
    s.Misused (executeBatch c sql) := by
  have hRest : (Blank.rest sql).isEmpty = false := by
    rw [Bool.eq_false_iff]
    intro hEmpty
    have hNothing := List.isEmpty_iff.mp hEmpty
    rw [Blank.isBlank_iff.mpr hNothing] at hText
    cases hText
  have hFirst : NeedsOpen (E := E) c
      (executeFirst c (Blank.rest sql)) :=
    Statement.within_needsOpen c _ _
  rcases Nat.exists_eq_succ_of_ne_zero hPatience with ⟨n, hn⟩
  apply Session.Misused.after (run_lift _ s)
  simp only [Quiet.read, hn, executeUpTo, hRest,
    Bool.not_false, if_true]
  exact (hFirst s hClosed).bind

/- A batch without a statement needs nothing. -/
theorem executeBatch_of_blank
    {sql : Bytes}
    (hPatience : s.world.patience ≠ 0)
    (hText : Blank.isBlank sql = true) :
    (executeBatch c sql).run s = (.ok (), s) := by
  rcases Nat.exists_eq_succ_of_ne_zero hPatience with ⟨n, hn⟩
  unfold executeBatch
  rw [run_bind_of_ok (run_lift _ s)]
  simp only [Quiet.read, hn, executeUpTo,
    Blank.isBlank_iff.mp hText, List.isEmpty_nil,
    Bool.not_true]
  rfl

theorem pragma_needsOpen
    (c : ConnectionId)
    (name : Bytes) :
    NeedsOpen (E := E) c (pragma c name) := by
  apply NeedsOpen.accept
  · exact fun r hRefused => Pragma.requireName_usage hRefused
  · exact fun _ => Statement.within_needsOpen c _ _

theorem setPragma_needsOpen
    (c : ConnectionId)
    (name : Bytes)
    (v : Value) :
    NeedsOpen (E := E) c (setPragma c name v) := by
  apply NeedsOpen.accept
  · exact fun r hRefused => Pragma.requireName_usage hRefused
  intro _
  apply NeedsOpen.accept
  · exact fun r hRefused => Pragma.literal_usage hRefused
  · exact fun _ => Statement.within_needsOpen c _ _

end Connection

------------------------------------------------------------
-- Guards and Backups
------------------------------------------------------------

theorem Transaction.start_needsOpen
    (c : ConnectionId)
    (p : Place)
    (type : TransactionType) :
    NeedsOpen (E := E) c (start c p type) :=
  .bind (Connection.execute_needsOpen c _)

theorem Transaction.within_needsOpen
    (c : ConnectionId)
    (work : Place → Attempt E α) :
    NeedsOpen c (within c work) :=
  .bind (start_needsOpen c .scratch .deferred)

theorem Savepoint.start_needsOpen
    (c : ConnectionId)
    (p : Place)
    (name : Bytes) :
    NeedsOpen (E := E) c (start c p name) :=
  .require _ rfl (.bind (Connection.execute_needsOpen c _))

/- A savepoint inside a transaction of a closed connection. -/
theorem Transaction.savepoint_of_closed
    {t p : Place}
    {name : Bytes}
    {guard : Transaction}
    (hGuard : s.world.transactions.get? t = some guard)
    (hOn : guard.connection = some c)
    (hClosed : (s.world.connection c).handle = none) :
    s.Misused (savepoint t p name) := by
  have hLookup : (lift (lookup (E := E) t)).run s =
      (.ok guard, s) := by
    rw [run_lift]
    simp only [lookup, Quiet.read, hGuard, Option.getD_some]
  apply Session.Misused.after hLookup
  rw [hOn]
  apply NeedsOpen.require _ rfl _ s hClosed
  intro s hClosed
  cases hFound : s.world.connections.contains c with
  | false =>
      exact Session.Misused.bind ⟨.connectionDestroyed, rfl,
        Connection.requireExisting_of_missing hFound⟩
  | true =>
      exact .after
        (Connection.requireExisting_of_contains hFound)
        (Savepoint.start_needsOpen c p name s hClosed)

namespace Backup

theorem start_needsOpen_source
    (p : Place)
    (c d : ConnectionId)
    (first second : Bytes) :
    NeedsOpen (E := E) c (start p c d first second) :=
  .require _ rfl (.bind (Connection.requireOpen_needsOpen c _))

theorem start_needsOpen_destination
    (p : Place)
    (c d : ConnectionId)
    (first second : Bytes) :
    NeedsOpen (E := E) d (start p c d first second) := by
  apply NeedsOpen.require _ rfl
  apply Connection.requireOpen_bind_needsOpen
  exact fun _ => .bind (Connection.requireOpen_needsOpen d _)

end Backup

theorem Backup.copyAll_needsOpen_source
    (c d : ConnectionId) :
    NeedsOpen (E := E) c (copyAll c d) :=
  .bind (start_needsOpen_source .scratch c d _ _)

theorem Backup.copyAll_needsOpen_destination
    (c d : ConnectionId) :
    NeedsOpen (E := E) d (copyAll c d) :=
  .bind (start_needsOpen_destination .scratch c d _ _)

------------------------------------------------------------
-- Requests
------------------------------------------------------------

namespace ConnectionRequest

/-
  Whether a request always needs an open connection.  To
  close, to interrupt and to look at a connection can be
  asked at any time, as can what the host does by itself; a
  batch needs one if it has a statement.
-/
def needsOpen : ConnectionRequest → Bool
  | close => false
  | interrupt => false
  | info => false
  | options => false
  | compileByHost _ => false
  | executeBatch _ => false
  | _ => true

theorem perform_needsOpen
    {r : ConnectionRequest}
    (hNeeds : r.needsOpen = true) :
    NeedsOpen (E := E) c (r.perform c) := by
  have hOpen : ∀ {β γ : Type} {operation : String}
      {k : DatabaseHandle → Attempt E β}
      {k' : β → Attempt E γ},
      NeedsOpen c
        ((Connection.requireOpen c operation >>= k) >>=
          k') :=
    fun {_ _ _ _ _} =>
      .bind (.bind (Connection.requireOpen_needsOpen c _))
  cases r with
  | execute sql =>
      exact .bind (Connection.execute_needsOpen c sql)
  | withTransaction body returns =>
      exact .bind (Transaction.within_needsOpen c _)
  | isAutocommit => exact hOpen
  | transactionState schema => exact hOpen
  | pragma name =>
      exact .bind (Connection.pragma_needsOpen c name)
  | setPragma name v =>
      exact .bind (Connection.setPragma_needsOpen c name v)
  | setConfig flag on => exact hOpen
  | getConfig flag => exact hOpen
  | setBusyTimeout milliseconds => exact hOpen
  | lastRowId => exact hOpen
  | changes => exact hOpen
  | totalChanges => exact hOpen
  | tableExists name =>
      exact .bind (Statement.within_needsOpen c _ _)
  | isReadOnly schema => exact hOpen
  | close | interrupt | info | options => cases hNeeds
  | executeBatch sql | compileByHost sql => cases hNeeds

end ConnectionRequest

------------------------------------------------------------
-- Sessions
------------------------------------------------------------

namespace Session

/-
  What a connection can be used for in a session, whether it
  is open or not:

    * `request`: whatever is asked of it that needs it open
    * `batch`: running a batch that has a statement
    * `prepare`, `assign`: preparing a statement of its own or
      for one that exists
    * `begin`, `savepoint`, `savepointInside`: beginning a
      transaction, and making a savepoint on the connection or
      inside a transaction of it
    * `backupFrom`, `backupTo`: starting a backup
    * `copyFrom`, `copyTo`: copying a whole database
    * `serialized`: running a text on a serialized connection
-/
inductive Uses
    (s : Session E)
    (c : ConnectionId) : Attempt E Reply → Prop where
  | request
      {r : ConnectionRequest}
      (hNeeds : r.needsOpen = true) :
      s.Uses c (r.perform c)
  | batch
      {sql : Bytes}
      (hText : Blank.isBlank sql = false)
      (hPatience : s.world.patience ≠ 0) :
      s.Uses c ((ConnectionRequest.executeBatch sql).perform c)
  | prepare
      {p : Place} {sql : Bytes} :
      s.Uses c (Reply.after (Statement.prepare c p sql))
  | assign
      {n m : Nat} {sql : Bytes}
      (hFound : s.world.plain.get? n = some c) :
      s.Uses c
        (Reply.after (Operation.assignPreparedIn n m sql))
  | begin
      {p : Place} {type : TransactionType} :
      s.Uses c (Reply.after (Transaction.start c p type))
  | savepoint
      {p : Place} {name : Bytes} :
      s.Uses c (Reply.after (Savepoint.start c p name))
  | savepointInside
      {t p : Place} {name : Bytes} {guard : Transaction}
      (hGuard : s.world.transactions.get? t = some guard)
      (hOn : guard.connection = some c) :
      s.Uses c (Reply.after (Transaction.savepoint t p name))
  | backupFrom
      {p : Place} {d : ConnectionId} {first second : Bytes} :
      s.Uses c (Reply.after (Backup.start p c d first second))
  | backupTo
      {p : Place} {d : ConnectionId} {first second : Bytes} :
      s.Uses c (Reply.after (Backup.start p d c first second))
  | copyFrom
      {d : ConnectionId} :
      s.Uses c (Reply.after (Backup.copyAll c d))
  | copyTo
      {d : ConnectionId} :
      s.Uses c (Reply.after (Backup.copyAll d c))
  | serialized
      {sql : Bytes} :
      s.Uses c ((SerializedRequest.execute sql).perform c)

/- Every use of a closed connection is a misuse. -/
theorem Uses.misused
    {x : Attempt E Reply}
    (hClosed : (s.world.connection c).handle = none)
    (hUses : s.Uses c x) :
    s.Misused x := by
  cases hUses with
  | request hNeeds =>
      exact ConnectionRequest.perform_needsOpen hNeeds s hClosed
  | batch hText hPatience =>
      exact (Connection.executeBatch_of_closed hClosed
        hPatience hText).bind
  | prepare =>
      exact (Statement.prepare_needsOpen c _ _ s hClosed).bind
  | @assign _ _ sql hFound =>
      apply Misused.bind
      exact .after (Operation.run_needed hFound)
        (Statement.within_needsOpen c sql _ s hClosed)
  | begin =>
      exact (Transaction.start_needsOpen c _ _ s hClosed).bind
  | savepoint =>
      exact (Savepoint.start_needsOpen c _ _ s hClosed).bind
  | savepointInside hGuard hOn =>
      exact (Transaction.savepoint_of_closed hGuard hOn
        hClosed).bind
  | backupFrom =>
      exact (Backup.start_needsOpen_source _ c _ _ _ s
        hClosed).bind
  | backupTo =>
      exact (Backup.start_needsOpen_destination _ _ c _ _ s
        hClosed).bind
  | copyFrom =>
      exact (Backup.copyAll_needsOpen_source c _ s hClosed).bind
  | copyTo =>
      exact (Backup.copyAll_needsOpen_destination _ c s
        hClosed).bind
  | serialized =>
      exact (Connection.execute_needsOpen c _ s hClosed).bind

/-
  Whether a connection is barred from use:

    * `refused`: whatever it is used for is refused as a
      misuse and has no effect at all
    * `idle`: a batch that has no statement is not refused, and
      it has no effect either
-/
structure Barred
    (s : Session E)
    (c : ConnectionId) : Prop where
  refused : ∀ x, s.Uses c x →
    ∃ e : DatabaseError, e.kind = .usage ∧
      x.run s = (.error (.database e), s)
  idle : ∀ sql, Blank.isBlank sql = true →
    s.world.patience ≠ 0 →
    ((ConnectionRequest.executeBatch sql).perform c).run s =
      (.ok .nothing, s)

/-
  On every engine, whatever was done before: a connection
  that is closed is barred from use.
-/
theorem closed_bars_use
    (engine : E.State)
    (patience : Nat)
    (log : Log)
    (ops : List Operation)
    (c : ConnectionId)
    (hClosed :
      (((start engine patience log).runAll
        ops).2.world.connection c).isOpen = false) :
    ((start engine patience log).runAll ops).2.Barred c := by
  have hNone : (((start engine patience log).runAll
      ops).2.world.connection c).handle = none :=
    Option.isNone_iff_eq_none.mp
      (Option.isSome_eq_false_iff.mp hClosed)
  constructor
  case refused =>
    intro x hUses
    rcases hUses.misused hNone with ⟨r, hUsage, hRun⟩
    exact ⟨r.error, hUsage, hRun⟩
  case idle =>
    intro sql hText hPatience
    exact run_bind_of_ok
      (Connection.executeBatch_of_blank hPatience hText)

/- Open a connection, and close it. -/
def openedClosed : List Operation :=
  [.openConnection 0 [] { strictQuoting := false },
    .connection 0 .close]

/- The connection is there, and it is closed. -/
theorem openedClosed_closed :
    ((start idleEngine 10 {}).runAll
      openedClosed).2.world.plain.get? 0 = some ⟨1⟩ ∧
      (((start idleEngine 10 {}).runAll
        openedClosed).2.world.connection ⟨1⟩).isOpen =
          false := by
  decide +kernel

/- A batch with a statement is refused on it, for example. -/
theorem closed_bars_use_batch :
    (((start idleEngine 10 {}).runAll
        openedClosed).2.world.connection ⟨1⟩).isOpen =
          false ∧
      ∃ e : DatabaseError, e.kind = .usage ∧
        ((ConnectionRequest.executeBatch
          (Bytes.ascii "; S")).perform ⟨1⟩).run
            ((start idleEngine 10 {}).runAll
              openedClosed).2 =
          (.error (.database e),
            ((start idleEngine 10 {}).runAll
              openedClosed).2) := by
  have hBarred := closed_bars_use idleEngine 10 {}
    openedClosed ⟨1⟩ openedClosed_closed.2
  exact ⟨openedClosed_closed.2,
    hBarred.refused _ (.batch (by decide) (by decide +kernel))⟩

/- Not every batch is refused: an empty one is not. -/
theorem closed_batch_passes :
    ¬ ∀ (engine : Engine.scripted.State)
        (patience : Nat)
        (log : Log)
        (ops : List Operation)
        (n : Nat)
        (c : ConnectionId)
        (sql : Bytes),
      patience ≠ 0 →
        ((start engine patience log).runAll
          ops).2.world.plain.get? n = some c →
        (((start engine patience log).runAll
          ops).2.world.connection c).isOpen = false →
        failedAs (((start engine patience log).runAll
          ops).2.run (.connection n (.executeBatch sql))).1 =
            some .usage := by
  intro hAll
  have hUsage := hAll idleEngine 10 {} openedClosed 0 ⟨1⟩ []
    (by decide) openedClosed_closed.1 openedClosed_closed.2
  have hActual : failedAs
      (((start idleEngine 10 {}).runAll openedClosed).2.run
        (.connection 0 (.executeBatch []))).1 = none := by
    decide +kernel
  cases hActual.symm.trans hUsage

end Session

end SqliteAccess
