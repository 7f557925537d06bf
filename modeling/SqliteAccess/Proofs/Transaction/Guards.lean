import SqliteAccess.Proofs.Connection.Conduct
import SqliteAccess.Proofs.Transaction.Effects

/-
  What guards of both kinds have in common.

  Only an active guard has something to end.  When it goes
  away it asks its connection whether a transaction is open,
  and only then makes one attempt to end its own.

  Key definitions include:
    * `GuardKind`
    * `Guard`
    * `World.active`
    * `World.inTransaction`
    * `GuardKind.abandon`
    * `Guard.Leaves`

  The guards are characterized by:
    * `World.active_endGuard`
    * `World.active_moveGuard`
    * `GuardKind.abandon_of_inactive`
    * `GuardKind.abandon_of_active`
    * `Guard.Leaves.sent_of_busy`
    * `Guard.Leaves.sent_of_not_busy`
-/

namespace SqliteAccess

variable {E : Engine}

open Quiet Attempt

------------------------------------------------------------
-- Guards
------------------------------------------------------------

/- The two kinds of guards. -/
inductive GuardKind where
  | transaction
  | savepoint
  deriving DecidableEq

/-
  What an active guard has: the connection it was made on,
  the text that it sends to keep what was done, the texts, in
  order, that it sends to undo it, the text that it sends
  when it goes away, and what it writes to the log if that
  fails.
-/
structure Guard where
  connection : Option ConnectionId
  completion : Bytes
  withdrawal : List Bytes
  farewell : Bytes
  complaint : String
  details : DatabaseError → List LogField

/- A guard that goes away rolls its transaction back. -/
def Transaction.guard (t : Transaction) : Guard :=
  { connection := t.connection
    completion := Bytes.ascii "COMMIT"
    withdrawal := [Bytes.ascii "ROLLBACK"]
    farewell := Bytes.ascii "ROLLBACK"
    complaint := "rollback in destructor failed"
    details := fun e =>
      [.ofText "error" (Bytes.untilNul e.report),
        .ofInt "code" e.code] }

/- A guard that goes away releases its savepoint. -/
def Savepoint.guard (s : Savepoint) : Guard :=
  { connection := s.connection
    completion := releaseSql s.name
    withdrawal := [rollbackSql s.name, releaseSql s.name]
    farewell := releaseSql s.name
    complaint := "releasing savepoint in destructor failed"
    details := fun e =>
      [.ofText "savepoint" s.name,
        .ofText "error" (Bytes.untilNul e.report)] }

namespace World

/- The active guard at a place, if there is one. -/
def active
    (w : World E) :
    GuardKind → Place → Option Guard
  | .transaction, p =>
      ((w.transactions.get? p).filter (·.active)).map
        Transaction.guard
  | .savepoint, p =>
      ((w.savepoints.get? p).filter (·.active)).map
        Savepoint.guard

/- Whether there is a guard at a place, active or not. -/
def hasGuard
    (w : World E) :
    GuardKind → Place → Bool
  | .transaction, p => w.transactions.contains p
  | .savepoint, p => w.savepoints.contains p

/- The handle of a connection that exists and is open. -/
def handleOf
    (w : World E)
    (c : Option ConnectionId) : Option DatabaseHandle :=
  c.bind fun c => (w.connection c).handle

/-
  Whether there is an open connection of which the engine
  would say, if it was asked now, that a transaction is open.
-/
def inTransaction
    (w : World E)
    (c : Option ConnectionId) : Bool :=
  (w.handleOf c).any fun db =>
    ! (E.answer (.autocommit db) w.engine).1

------------------------------------------------------------
-- Changing Guards
------------------------------------------------------------

/- Let a guard have nothing left to end. -/
def endGuard
    (k : GuardKind)
    (p : Place)
    (w : World E) : World E :=
  match k with
  | .transaction => w.modifyTransaction p Transaction.ended
  | .savepoint => w.modifySavepoint p Savepoint.ended

/- Forget the guard at a place. -/
def dropGuard
    (k : GuardKind)
    (p : Place)
    (w : World E) : World E :=
  match k with
  | .transaction =>
      { w with transactions := w.transactions.erase p }
  | .savepoint =>
      { w with savepoints := w.savepoints.erase p }

/- Take a guard from one place to another. -/
def moveGuard
    (k : GuardKind)
    (source target : Place)
    (w : World E) : World E :=
  match k with
  | .transaction => Transaction.transfer source target w
  | .savepoint => Savepoint.transfer source target w

variable {w w' : World E} {k k' : GuardKind}
variable {p q source target : Place}

/- Worlds with the same guards have the same active ones. -/
theorem active_congr
    (hTransactions : w'.transactions = w.transactions)
    (hSavepoints : w'.savepoints = w.savepoints) :
    w'.active = w.active := by
  funext k p
  cases k with
  | transaction => simp only [active, hTransactions]
  | savepoint => simp only [active, hSavepoints]

theorem hasGuard_congr
    (hTransactions : w'.transactions = w.transactions)
    (hSavepoints : w'.savepoints = w.savepoints) :
    w'.hasGuard = w.hasGuard := by
  funext k p
  cases k with
  | transaction => simp only [hasGuard, hTransactions]
  | savepoint => simp only [hasGuard, hSavepoints]

/- An active guard is a guard. -/
theorem hasGuard_of_active
    {g : Guard}
    (hActive : w.active k p = some g) :
    w.hasGuard k p = true := by
  cases k with
  | transaction =>
      cases hGuard : w.transactions.get? p with
      | none => simp [active, hGuard] at hActive
      | some t => simp [hasGuard, Table.contains, hGuard]
  | savepoint =>
      cases hGuard : w.savepoints.get? p with
      | none => simp [active, hGuard] at hActive
      | some s => simp [hasGuard, Table.contains, hGuard]

/- A guard that is ended is not active any more. -/
@[simp]
theorem active_endGuard :
    (w.endGuard k p).active k' q =
      if k' = k ∧ q = p then none else w.active k' q := by
  cases k <;> cases k' <;> by_cases hPlace : q = p <;>
    simp [active, endGuard, hPlace, Option.filter_map,
      Transaction.ended, Savepoint.ended, Function.comp_def]

/- Ending a guard depends on the active ones only. -/
theorem active_endGuard_congr
    (hSame : w'.active = w.active) :
    (w'.endGuard k p).active = (w.endGuard k p).active := by
  funext k' q
  rw [active_endGuard, active_endGuard, hSame]

/- A guard that is forgotten is not active either. -/
@[simp]
theorem active_dropGuard :
    (w.dropGuard k p).active k' q =
      if k' = k ∧ q = p then none else w.active k' q := by
  cases k <;> cases k' <;> by_cases hPlace : q = p <;>
    simp [active, dropGuard, hPlace]

/- A guard is active where it was taken to. -/
theorem active_moveGuard
    (hSource : w.hasGuard k source = true) :
    (w.moveGuard k source target).active k' q =
      if k' = k ∧ q = source then none
      else if k' = k ∧ q = target then w.active k source
      else w.active k' q := by
  cases k with
  | transaction =>
      cases hGuard : w.transactions.get? source with
      | none =>
          simp [hasGuard, Table.contains, hGuard] at hSource
      | some t =>
          cases k' <;> by_cases hFrom : q = source <;>
            by_cases hTo : q = target <;>
            simp_all [active, moveGuard,
              Transaction.transfer, Transaction.emptied]
  | savepoint =>
      cases hGuard : w.savepoints.get? source with
      | none =>
          simp [hasGuard, Table.contains, hGuard] at hSource
      | some s =>
          cases k' <;> by_cases hFrom : q = source <;>
            by_cases hTo : q = target <;>
            simp_all [active, moveGuard, Savepoint.transfer,
              Savepoint.emptied]

/- Where a guard was before another was taken to a place. -/
def movedFrom
    (w : World E)
    (k : GuardKind)
    (source target : Place)
    (k' : GuardKind)
    (q : Place) : Place :=
  if k' = k ∧ q = target ∧ w.hasGuard k source then source
  else q

/- There is nothing to take where no guard is. -/
theorem moveGuard_of_missing
    (hSource : w.hasGuard k source = false) :
    w.moveGuard k source target = w := by
  cases k with
  | transaction =>
      simp only [hasGuard, Table.contains,
        Option.isSome_eq_false_iff,
        Option.isNone_iff_eq_none] at hSource
      simp [moveGuard, Transaction.transfer, hSource]
  | savepoint =>
      simp only [hasGuard, Table.contains,
        Option.isSome_eq_false_iff,
        Option.isNone_iff_eq_none] at hSource
      simp [moveGuard, Savepoint.transfer, hSource]

/-
  A guard that is active after one was taken elsewhere was
  active where it came from, and is not at the place that was
  left.
-/
theorem active_of_moveGuard
    {g : Guard}
    (hActive :
      (w.moveGuard k source target).active k' q = some g) :
    w.active k' (w.movedFrom k source target k' q) = some g ∧
      (w.hasGuard k source = true →
        ¬ (k' = k ∧ q = source)) := by
  cases hSource : w.hasGuard k source with
  | false =>
      rw [moveGuard_of_missing hSource] at hActive
      refine ⟨?_, nofun⟩
      rw [movedFrom, if_neg (by simp [hSource])]
      exact hActive
  | true =>
      rw [active_moveGuard hSource] at hActive
      split at hActive
      case isTrue => cases hActive
      case isFalse hLeft =>
        refine ⟨?_, fun _ => hLeft⟩
        split at hActive
        case isTrue hMoved =>
          rw [movedFrom,
            if_pos ⟨hMoved.1, hMoved.2, hSource⟩, hMoved.1]
          exact hActive
        case isFalse hStayed =>
          rw [movedFrom, if_neg (fun h => hStayed ⟨h.1, h.2.1⟩)]
          exact hActive

/- A guard is active where it was put. -/
theorem active_putTransaction
    {t : Transaction}
    (hActive : t.active = true) :
    active
        { w with transactions := w.transactions.put p t } k q =
      if k = .transaction ∧ q = p then some t.guard
      else w.active k q := by
  cases k <;> by_cases hPlace : q = p <;>
    simp [active, hPlace, Option.filter, hActive]

theorem active_putSavepoint
    {s : Savepoint}
    (hActive : s.active = true) :
    active
        { w with savepoints := w.savepoints.put p s } k q =
      if k = .savepoint ∧ q = p then some s.guard
      else w.active k q := by
  cases k <;> by_cases hPlace : q = p <;>
    simp [active, hPlace, Option.filter, hActive]

/- Ending a guard leaves it where it is. -/
@[simp]
theorem hasGuard_endGuard :
    (w.endGuard k p).hasGuard k' q = w.hasGuard k' q := by
  cases k <;> cases k' <;> by_cases hPlace : q = p <;>
    simp [hasGuard, endGuard, Table.contains, hPlace]

/- Changing guards changes nothing else. -/
theorem endGuard_eq
    (k : GuardKind)
    (p : Place)
    (w : World E) :
    ∃ transactions savepoints,
      w.endGuard k p =
        { w with transactions, savepoints } := by
  cases k with
  | transaction =>
      exact ⟨_, w.savepoints,
        modifyTransaction_eq p Transaction.ended w⟩
  | savepoint =>
      exact ⟨w.transactions, _,
        modifySavepoint_eq p Savepoint.ended w⟩

theorem dropGuard_eq
    (k : GuardKind)
    (p : Place)
    (w : World E) :
    ∃ transactions savepoints,
      w.dropGuard k p =
        { w with transactions, savepoints } := by
  cases k with
  | transaction => exact ⟨_, w.savepoints, rfl⟩
  | savepoint => exact ⟨w.transactions, _, rfl⟩

theorem moveGuard_eq
    (k : GuardKind)
    (source target : Place)
    (w : World E) :
    ∃ transactions savepoints,
      w.moveGuard k source target =
        { w with transactions, savepoints } := by
  cases k with
  | transaction =>
      unfold moveGuard Transaction.transfer
      cases w.transactions.get? source with
      | none => exact ⟨w.transactions, w.savepoints, rfl⟩
      | some t => exact ⟨_, w.savepoints, rfl⟩
  | savepoint =>
      unfold moveGuard Savepoint.transfer
      cases w.savepoints.get? source with
      | none => exact ⟨w.transactions, w.savepoints, rfl⟩
      | some s => exact ⟨w.transactions, _, rfl⟩

/- Guards are ended without a call, and nothing is closed. -/
theorem trace_endGuard :
    (w.endGuard k p).trace = w.trace := by
  rcases endGuard_eq k p w with ⟨_, _, hSame⟩
  rw [hSame]

theorem connection_endGuard :
    (w.endGuard k p).connection = w.connection := by
  rcases endGuard_eq k p w with ⟨_, _, hSame⟩
  rw [hSame]
  rfl

/- Guards are forgotten without a call. -/
theorem trace_dropGuard :
    (w.dropGuard k p).trace = w.trace := by
  rcases dropGuard_eq k p w with ⟨_, _, hSame⟩
  rw [hSame]

/- Guards are moved without a call. -/
theorem trace_moveGuard :
    (w.moveGuard k source target).trace = w.trace := by
  rcases moveGuard_eq k source target w with ⟨_, _, hSame⟩
  rw [hSame]

end World

------------------------------------------------------------
-- Going Away
------------------------------------------------------------

namespace GuardKind

/- End what a guard has to end, if it is active. -/
def abandon (k : GuardKind) (p : Place) : Quiet E Unit :=
  match k with
  | transaction => Transaction.abandon p
  | savepoint => Savepoint.abandon p

/- What is said of a transaction that is open no more. -/
def spared (k : GuardKind) : Quiet E Unit :=
  match k with
  | transaction =>
      note .debug
        "transaction already rolled back by the engine"
  | savepoint => pure ()

end GuardKind

/- What a guard writes to the log if an attempt failed. -/
def Guard.complain
    (g : Guard)
    (result : Except Failure Int)
    (log : Log) : Log :=
  match result with
  | .error (.database e) =>
      log.write .error (Bytes.ascii g.complaint) (g.details e)
  | _ => log

/-
  How an active guard goes away, where a failure of its one
  attempt is written to the log.
-/
def Guard.leave
    (g : Guard)
    (k : GuardKind)
    (p : Place) : Quiet E Unit := do
  update (World.endGuard k p)
  match ← Connection.openTransaction g.connection with
  | (none, _) => pure ()
  | (some _, false) => k.spared
  | (some c, true) =>
      tolerate
        (do
          let _ ← Connection.execute c g.farewell)
        (fun e => note .error g.complaint (g.details e))

/- A transaction guard that is active is kept as such. -/
theorem World.active_transaction
    {w : World E}
    {p : Place}
    {g : Guard}
    (hActive : w.active .transaction p = some g) :
    ∃ t, w.transactions.get? p = some t ∧
      t.active = true ∧ t.guard = g := by
  simp only [active, Option.map_eq_some_iff,
    Option.filter_eq_some_iff] at hActive
  rcases hActive with ⟨t, ⟨hGuard, hState⟩, hSame⟩
  exact ⟨t, hGuard, hState, hSame⟩

/- A savepoint guard that is active is kept as such. -/
theorem World.active_savepoint
    {w : World E}
    {p : Place}
    {g : Guard}
    (hActive : w.active .savepoint p = some g) :
    ∃ s, w.savepoints.get? p = some s ∧
      s.active = true ∧ s.guard = g := by
  simp only [active, Option.map_eq_some_iff,
    Option.filter_eq_some_iff] at hActive
  rcases hActive with ⟨t, ⟨hGuard, hState⟩, hSame⟩
  exact ⟨t, hGuard, hState, hSame⟩

/- A guard that is kept as active is active. -/
theorem World.active_of_transaction
    {w : World E}
    {p : Place}
    {t : Transaction}
    (hGuard : w.transactions.get? p = some t)
    (hState : t.active = true) :
    w.active .transaction p = some t.guard := by
  simp [active, hGuard, Option.filter, hState]

theorem World.active_of_savepoint
    {w : World E}
    {p : Place}
    {s : Savepoint}
    (hGuard : w.savepoints.get? p = some s)
    (hState : s.active = true) :
    w.active .savepoint p = some s.guard := by
  simp [active, hGuard, Option.filter, hState]

/- A guard that is kept is what is looked up. -/
theorem Transaction.lookup_of_guard
    {s : Session E}
    {p : Place}
    {t : Transaction}
    (hGuard : s.world.transactions.get? p = some t) :
    lookup p s = (t, s) := by
  simp [lookup, Quiet.read, hGuard]

theorem Savepoint.lookup_of_guard
    {s : Session E}
    {p : Place}
    {t : Savepoint}
    (hGuard : s.world.savepoints.get? p = some t) :
    lookup p s = (t, s) := by
  simp [lookup, Quiet.read, hGuard]

/- What is looked up has nothing to end if it is inactive. -/
theorem Transaction.lookup_of_inactive
    {s : Session E}
    {p : Place}
    (hInactive : s.world.active .transaction p = none) :
    (lookup p s).1.active = false := by
  cases hGuard : s.world.transactions.get? p with
  | none => simp [lookup, Quiet.read, hGuard]
  | some t =>
      cases hState : t.active <;>
        simp [World.active, hGuard, hState] at hInactive
      simp [lookup, Quiet.read, hGuard, hState]

theorem Savepoint.lookup_of_inactive
    {s : Session E}
    {p : Place}
    (hInactive : s.world.active .savepoint p = none) :
    (lookup p s).1.active = false := by
  cases hGuard : s.world.savepoints.get? p with
  | none => simp [lookup, Quiet.read, hGuard]
  | some t =>
      cases hState : t.active <;>
        simp [World.active, hGuard, hState] at hInactive
      simp [lookup, Quiet.read, hGuard, hState]

/- A guard that is not active has nothing to do. -/
theorem GuardKind.abandon_of_inactive
    {k : GuardKind}
    {p : Place}
    {s : Session E}
    (hInactive : s.world.active k p = none) :
    k.abandon p s = ((), s) := by
  cases k with
  | transaction =>
      have hEnded := Transaction.lookup_of_inactive hInactive
      simp only [abandon, Transaction.abandon,
        Quiet.run_bind, hEnded]
      rfl
  | savepoint =>
      have hEnded := Savepoint.lookup_of_inactive hInactive
      simp only [abandon, Savepoint.abandon,
        Quiet.run_bind, hEnded]
      rfl

/- An active guard ends itself. -/
theorem GuardKind.abandon_of_active
    {k : GuardKind}
    {p : Place}
    {g : Guard}
    {s : Session E}
    (hActive : s.world.active k p = some g) :
    k.abandon p s = g.leave k p s := by
  cases k with
  | transaction =>
      rcases World.active_transaction hActive with
        ⟨t, hGuard, hState, rfl⟩
      have hLookup := Transaction.lookup_of_guard hGuard
      simp only [abandon, Transaction.abandon,
        Quiet.run_bind, hLookup, hState, if_true]
      simp only [Transaction.rollbackQuietly, Guard.leave,
        Quiet.run_bind, hLookup]
      rfl
  | savepoint =>
      rcases World.active_savepoint hActive with
        ⟨t, hGuard, hState, rfl⟩
      have hLookup := Savepoint.lookup_of_guard hGuard
      simp only [abandon, Savepoint.abandon,
        Quiet.run_bind, hLookup, hState, if_true]
      have hEnd : World.modifySavepoint p Savepoint.ended =
          World.endGuard (E := E) .savepoint p := rfl
      simp only [Savepoint.releaseQuietly, Guard.leave,
        Quiet.run_bind, hLookup, Savepoint.guard, hEnd,
        GuardKind.spared]
      -- the two ways of telling the answers apart agree
      rcases Connection.openTransaction t.connection _ with
        ⟨⟨found, busy⟩, s'⟩
      cases found <;> cases busy <;> rfl

------------------------------------------------------------
-- What the Connection Answers
------------------------------------------------------------

/- A connection that is gone or closed is not asked. -/
theorem Connection.openTransaction_of_closed
    {s : Session E}
    {c : Option ConnectionId}
    (hClosed : s.world.handleOf c = none) :
    openTransaction c s = ((none, false), s) := by
  cases c with
  | none => rfl
  | some c =>
      have hHandle : (s.world.connection c).handle = none :=
        hClosed
      cases hFound : s.world.connections.contains c <;>
        simp [openTransaction, existing, Quiet.run_bind,
          Quiet.read, hFound, lookup, hHandle]

/- An open one is asked once, and says what it would say. -/
theorem Connection.openTransaction_of_open
    {s : Session E}
    {c : ConnectionId}
    {db : DatabaseHandle}
    (hOpen : (s.world.connection c).handle = some db) :
    ∃ idle engine,
      s.world.inTransaction (some c) = ! idle ∧
        openTransaction (some c) s =
          ((some c, ! idle),
            { s with
              world :=
                s.world.heard ⟨.autocommit db, idle⟩
                  engine }) := by
  rcases World.get?_of_connection_handle hOpen with
    ⟨conn, hFound, _⟩
  refine ⟨(E.answer (.autocommit db) s.world.engine).1,
    (E.answer (.autocommit db) s.world.engine).2, ?_, ?_⟩
  · simp [World.inTransaction, World.handleOf, hOpen]
  · simp [openTransaction, existing, Quiet.run_bind,
      Quiet.read, Table.contains, hFound, lookup, hOpen,
      World.heard]
    rfl

/- Whoever asks it on request hears the same. -/
theorem Connection.isAutocommit_of_open
    {s : Session E}
    {c : ConnectionId}
    {db : DatabaseHandle}
    (hOpen : (s.world.connection c).handle = some db) :
    ∃ t, (isAutocommit c).run s =
        (.ok (! s.world.inTransaction (some c)), t) ∧
      (t.world.connection c).handle = some db ∧
      t.world.trace =
        ⟨.autocommit db,
          ! s.world.inTransaction (some c)⟩ ::
            s.world.trace := by
  have hAsked := run_bind_of_ok (requireOpen_of_open hOpen
    "isAutocommit") (k := fun db =>
      lift (invoke (E := E) (.autocommit db)))
  have hSaid : (! s.world.inTransaction (some c)) =
      (E.answer (.autocommit db) s.world.engine).1 := by
    simp [World.inTransaction, World.handleOf, hOpen]
  rw [hSaid]
  exact ⟨_, hAsked.trans rfl, hOpen, rfl⟩

/-
  How a guard that was active has gone away: it found no open
  connection, or no open transaction, or it made one attempt.
  If that failed, an error was written to the log, which had
  got warnings at most from the attempt itself.
-/
inductive Guard.Leaves
    (g : Guard)
    (s s' : Session E) : Prop
  | unreachable
      (hClosed : s.world.handleOf g.connection = none)
      (hTrace : s'.world.trace = s.world.trace)
      (hLog : s'.log = s.log)
  | spared {db}
      (hOpen : s.world.handleOf g.connection = some db)
      (hSaid : s.world.inTransaction g.connection = false)
      (hTrace :
        s'.world.trace =
          ⟨.autocommit db, true⟩ :: s.world.trace)
      (hLog : s'.log = s.log ∨
        ∃ message,
          s'.log = s.log.write .debug message [])
  | attempted {c db result log}
      {t : Session E}
      (hConnection : g.connection = some c)
      (hOpen : (s.world.connection c).handle = some db)
      (hSaid : s.world.inTransaction g.connection = true)
      (hStillOpen :
        (t.world.connection c).handle = some db)
      (hAsked :
        t.world.trace =
          ⟨.autocommit db, false⟩ :: s.world.trace)
      (hTrace :
        s'.world.trace =
          ((Connection.execute c g.farewell).run
            t).2.world.trace)
      (hResult :
        ((Connection.execute c g.farewell).run t).1 =
          result)
      (hReported : ∀ e, result = .error e → e.IsReported)
      (hWarned : Log.Warned s.log log)
      (hLog : s'.log = g.complain result log)

namespace Guard

variable {k : GuardKind} {p : Place} {g : Guard}
variable {s s' : Session E}

/- A guard leaves in one of three ways. -/
theorem leave_leaves :
    g.Leaves s (g.leave k p s).2 := by
  rcases World.endGuard_eq k p s.world with
    ⟨transactions, savepoints, hEnd⟩
  let t : Session E :=
    { s with
      world := { s.world with transactions, savepoints } }
  have hEnded : update (World.endGuard k p) s = ((), t) := by
    simp only [Quiet.update, hEnd, t]
  cases hHandle : s.world.handleOf g.connection with
  | none =>
      have hAsked :=
        Connection.openTransaction_of_closed (s := t) hHandle
      simp only [leave, Quiet.run_bind, hEnded, hAsked]
      exact .unreachable hHandle rfl rfl
  | some db =>
      rcases Option.bind_eq_some_iff.1 hHandle with
        ⟨c, hConnection, hOpen⟩
      rcases Connection.openTransaction_of_open (s := t)
          hOpen with ⟨idle, engine, hSaid, hAsked⟩
      have hSays : s.world.inTransaction g.connection =
          ! idle := by
        rw [hConnection]
        exact hSaid
      simp only [leave, Quiet.run_bind, hEnded, hConnection,
        hAsked]
      cases idle with
      | true =>
          apply Leaves.spared hHandle hSays
          · cases k <;> rfl
          · cases k with
            | transaction => exact .inr ⟨_, rfl⟩
            | savepoint => exact .inl rfl
      | false =>
          let t' : Session E :=
            { t with
              world :=
                t.world.heard ⟨.autocommit db, false⟩
                  engine }
          have hModest :=
            Connection.execute_modest (E := E) c g.farewell
          apply Leaves.attempted (t := t') hConnection hOpen
            hSays hOpen rfl
          case hResult => rfl
          case hReported => exact hModest.failure t'
          case hWarned => exact hModest.log t'
          all_goals
            simp only [Bool.not_false, Guard.complain]
            rw [run_tolerate, Attempt.run_bind]
            rcases (Connection.execute c g.farewell).run t'
              with ⟨result, t''⟩
            cases result with
            | ok n => rfl
            | error e => cases e <;> rfl

/- How a guard leaves is seen in the trace and the log. -/
theorem Leaves.congr
    {s'' : Session E}
    (hLeaves : g.Leaves s s')
    (hTrace : s''.world.trace = s'.world.trace)
    (hLog : s''.log = s'.log) :
    g.Leaves s s'' := by
  cases hLeaves with
  | unreachable hClosed hTrace' hLog' =>
      exact .unreachable hClosed (hTrace.trans hTrace')
        (hLog.trans hLog')
  | spared hOpen hSaid hTrace' hLog' =>
      refine .spared hOpen hSaid (hTrace.trans hTrace') ?_
      rw [hLog]
      exact hLog'
  | attempted hConnection hOpen hSaid hStillOpen hAsked
      hTrace' hResult hReported hWarned hLog' =>
      exact .attempted hConnection hOpen hSaid hStillOpen
        hAsked (hTrace.trans hTrace') hResult hReported
        hWarned (hLog.trans hLog')

/- A guard that leaves is ended. -/
theorem leave_eq
    (g : Guard)
    (k : GuardKind)
    (p : Place)
    (s : Session E) :
    (g.leave k p s).2.world.transactions =
        (s.world.endGuard k p).transactions ∧
      (g.leave k p s).2.world.savepoints =
        (s.world.endGuard k p).savepoints := by
  unfold leave
  rw [Quiet.run_bind]
  refine Changes.keeps_guards (A := (· = .compile))
    (s := (update (World.endGuard k p) s).2) (by simp)
    (Quiet.Affects.bind
      (Connection.openTransaction_affects _) ?_ _)
  rintro ⟨found, busy⟩
  cases found with
  | none => exact .pure ()
  | some c =>
      cases busy with
      | false =>
          cases k with
          | transaction => exact .note _ _ _
          | savepoint => exact .pure ()
      | true =>
          apply Affects.tolerate
          · exact (Connection.execute_affects
              (A := (· = .compile)) c rfl _).map
          · exact fun e => .note _ _ _

/- No other guard is ended. -/
theorem leave_guards :
    (g.leave k p s).2.world.active =
        (s.world.endGuard k p).active ∧
      (g.leave k p s).2.world.hasGuard =
        s.world.hasGuard := by
  have hKept := g.leave_eq k p s
  refine ⟨World.active_congr hKept.1 hKept.2, ?_⟩
  rw [World.hasGuard_congr hKept.1 hKept.2]
  funext k' q
  exact World.hasGuard_endGuard

/-
  A guard sends its farewell if its connection says that a
  transaction is open.  The attempt sends nothing if its text
  is too long.
-/
theorem Leaves.sent_of_busy
    (hText : Blank.isBlank g.farewell = false)
    (hBusy : s.world.inTransaction g.connection = true)
    (hLeaves : g.Leaves s s') :
    s'.sent =
      if g.farewell.length ≤ Statement.longestText
        then g.farewell :: s.sent else s.sent := by
  cases hLeaves with
  | unreachable hClosed =>
      rw [World.inTransaction, hClosed] at hBusy
      cases hBusy
  | spared _ hSaid =>
      rw [hSaid] at hBusy
      cases hBusy
  | @attempted c db _ _ t _ _ _ hStillOpen hAsked hTrace =>
      have hSent := Connection.execute_sent hText c t
      simp only [Connection.isOpen, hStillOpen,
        Option.isSome_some, true_and] at hSent
      have hUnsent : t.sent = s.sent := by
        unfold Session.sent
        rw [hAsked]
        rfl
      rw [← hUnsent, ← hSent]
      unfold Session.sent
      rw [hTrace]

/- A guard sends nothing if it does not. -/
theorem Leaves.sent_of_not_busy
    (hFree : s.world.inTransaction g.connection = false)
    (hLeaves : g.Leaves s s') :
    s'.sent = s.sent := by
  cases hLeaves with
  | unreachable _ hTrace =>
      unfold Session.sent
      rw [hTrace]
  | spared _ _ hTrace =>
      unfold Session.sent
      rw [hTrace]
      rfl
  | attempted _ _ hSaid =>
      rw [hFree] at hSaid
      cases hSaid

end Guard

end SqliteAccess
