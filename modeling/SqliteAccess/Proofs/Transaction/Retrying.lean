import SqliteAccess.Engine.Scripted
import SqliteAccess.Operation.Run
import SqliteAccess.Proofs.Transaction.Within

/-
  What is left to a guard that could not be ended.

  An end that fails leaves its guard as it was, which can be
  asked again and does its duty when it goes away.  Only the
  rollback of a transaction lets the guard go first, so that
  nobody ends the transaction that stays open.

  Key definitions include:
    * `Attempt.FailsSafely`
    * `Session.Responsible`
    * `Session.Relieved`

  The guards are characterized by:
    * `GuardCall.failsSafely`
    * `Session.responsible_of_active`
    * `Session.relieved_of_inactive`
    * `GuardCall.responsible_after_failure`
-/

namespace SqliteAccess

variable {E : Engine} {α β : Type}

open Quiet Attempt

------------------------------------------------------------
-- Failing Safely
------------------------------------------------------------

/- Whether an attempt that fails leaves all guards alone. -/
def Attempt.FailsSafely (x : Attempt E α) : Prop :=
  ∀ s, (x.run s).1.isOk = false →
    (x.run s).2.world.active = s.world.active

namespace Attempt.FailsSafely

/- What cannot fail fails safely. -/
theorem lift (x : Quiet E α) :
    FailsSafely (lift x) := by
  intro s hFailed
  rw [run_lift] at hFailed
  cases hFailed

/- Guards may be changed once nothing can fail any more. -/
theorem bind
    {x : Attempt E α}
    {k : α → Attempt E β}
    (hFirst : Attempt.Affects (· = .compile) x)
    (hNext : ∀ a, FailsSafely (k a)) :
    FailsSafely (x >>= k) := by
  intro s hFailed
  have hKept := (hFirst s).keeps_guards (by simp)
  have hSame := World.active_congr hKept.1 hKept.2
  rw [Attempt.run_bind] at hFailed ⊢
  rcases hRun : x.run s with ⟨result, t⟩
  rw [hRun] at hFailed hSame
  cases result with
  | ok a => exact (hNext a t hFailed).trans hSame
  | error e => exact hSame

/-
  A guard is looked up and asked whether it is active and its
  connection exists, before anything is done.
-/
theorem asked
    {γ : Type}
    {active : γ → Bool}
    {refusal : γ → Refusal}
    {connection : γ → Option ConnectionId}
    {next : γ → ConnectionId → Attempt E α}
    {look : Quiet E γ}
    (hLook : Quiet.Affects (· = .compile) look)
    (hNext : ∀ t c, FailsSafely (next t c)) :
    FailsSafely
      (Attempt.lift look >>= fun t =>
        require (active t) (refusal t) >>= fun _ =>
          Connection.requireExisting (connection t) >>=
            next t) := by
  apply bind (.lift hLook)
  intro t
  apply bind (.require _ _)
  intro _
  apply bind (Connection.requireExisting_affects _)
  exact hNext t

/- Nothing but guards is changed once a text was executed. -/
theorem executed
    {next : Int → Attempt E α}
    (c : ConnectionId)
    (sql : Bytes)
    (hNext : ∀ n, FailsSafely (next n)) :
    FailsSafely (Connection.execute c sql >>= next) :=
  bind (Connection.execute_affects (A := (· = .compile)) c
    rfl sql) hNext

end Attempt.FailsSafely

/- Each end but one fails safely. -/
theorem GuardCall.failsSafely
    {call : GuardCall}
    {k : GuardKind}
    {p : Place}
    (hEnds : call.settles? = some (k, p))
    (hOther : call ≠ .rollback .transaction p) :
    Attempt.FailsSafely (E := E) call.perform := by
  cases call with
  | complete k' q =>
      cases k' with
      | transaction =>
          apply FailsSafely.asked (.read _)
          intro t c
          apply FailsSafely.executed
          exact fun _ => .lift _
      | savepoint =>
          apply FailsSafely.asked (.read _)
          intro t c
          apply FailsSafely.executed
          exact fun _ => .lift _
  | rollback k' q =>
      cases hEnds
      cases k with
      | transaction => exact absurd rfl hOther
      | savepoint =>
          apply FailsSafely.asked (.read _)
          intro t c
          apply FailsSafely.executed
          intro _
          apply FailsSafely.executed
          exact fun _ => .lift _
  | _ => cases hEnds

------------------------------------------------------------
-- Sending Again
------------------------------------------------------------

/- What was sent remains so. -/
theorem Changes.sent_suffix
    {A : Effect → Prop}
    {s s' : Session E}
    (hChanges : Changes A s s') :
    s.sent <:+ s'.sent := by
  rcases hChanges.trace_suffix with ⟨l, hTrace⟩
  unfold Session.sent
  rw [← hTrace]
  unfold Trace.sent
  rw [List.filterMap_append]
  exact List.suffix_append _ _

/-
  A text that is executed first is sent, whatever follows,
  unless it is too long.
-/
theorem Connection.execute_bind_sent
    {A : Effect → Prop}
    {c : ConnectionId}
    {db : DatabaseHandle}
    {sql : Bytes}
    {s : Session E}
    {next : Int → Attempt E α}
    (hOpen : (s.world.connection c).handle = some db)
    (hText : Statement.Sendable sql)
    (hNext : ∀ n, Attempt.Affects A (next n)) :
    sql :: s.sent <:+
      ((execute c sql >>= next).run s).2.sent := by
  have hSent := execute_sent hText.text c s
  rw [if_pos ⟨by simp [isOpen, hOpen], hText.fits⟩] at hSent
  rw [Attempt.run_bind, ← hSent]
  rcases (execute c sql).run s with ⟨result, t⟩
  cases result with
  | ok n => exact (hNext n t).sent_suffix
  | error e => exact List.suffix_refl _

/- An open transaction is rolled back, if that is asked for. -/
theorem Connection.rollback_sent
    {c : ConnectionId}
    {s : Session E}
    (hOpen : (s.world.connection c).isOpen = true)
    (hBusy : s.world.inTransaction (some c) = true) :
    Bytes.ascii "ROLLBACK" :: s.sent <:+
      ((isAutocommit c >>= fun idle =>
        if ! idle then
          execute c (Bytes.ascii "ROLLBACK") >>= fun _ =>
            pure ()
        else pure ()).run s).2.sent := by
  rcases Option.isSome_iff_exists.mp hOpen with ⟨db, hOpen⟩
  rcases isAutocommit_of_open hOpen with
    ⟨t, hAsked, hStillOpen, hTrace⟩
  have hSent : t.sent = s.sent := by
    unfold Session.sent
    rw [hTrace]
    rfl
  rw [run_bind_of_ok hAsked, hBusy, ← hSent]
  exact execute_bind_sent hStillOpen
    Transaction.rollbackSql_sendable
    (A := fun _ => False) fun _ => .pure ()

/- A connection with an open transaction is open. -/
theorem Session.open_of_inTransaction
    {c : Option ConnectionId}
    {s : Session E}
    (hBusy : s.world.inTransaction c = true) :
    ∃ id db, c = some id ∧
      (s.world.connection id).handle = some db ∧
      (Connection.requireExisting c).run s = (.ok id, s) := by
  cases c with
  | none => cases hBusy
  | some id =>
      cases hOpen : (s.world.connection id).handle with
      | none =>
          simp [World.inTransaction, World.handleOf,
            hOpen] at hBusy
      | some db =>
          refine ⟨id, db, rfl, hOpen,
            Connection.requireExisting_of_contains ?_⟩
          rcases World.get?_of_connection_handle hOpen with
            ⟨conn, hFound, _⟩
          simp [Table.contains, hFound]

namespace GuardKind

variable {k : GuardKind} {p : Place} {g : Guard}
variable {s : Session E}

/-
  An active guard that is to complete sends its text, unless
  it is too long.
-/
theorem complete_tried
    (hActive : s.world.active k p = some g)
    (hBusy : s.world.inTransaction g.connection = true)
    (hFits : g.completion.length ≤ Statement.longestText) :
    g.completion :: s.sent <:+
      ((k.complete p).run s).2.sent := by
  rcases Session.open_of_inTransaction hBusy with
    ⟨c, db, _, hOpen, hExists⟩
  rw [complete_of_active hActive, run_bind_of_ok hExists]
  apply Connection.execute_bind_sent hOpen
    ⟨completion_not_blank hActive, hFits⟩ (A := (· = .guard))
  exact fun _ => .lift (Guards.change_affects
    (A := (· = .guard)) rfl (World.endGuard_eq k p))

/- One that is to roll back sends the first of its texts. -/
theorem rollback_transaction_tried
    (hActive : s.world.active .transaction p = some g)
    (hBusy : s.world.inTransaction g.connection = true) :
    Bytes.ascii "ROLLBACK" :: s.sent <:+
      ((GuardKind.transaction.rollback p).run s).2.sent := by
  rcases Session.open_of_inTransaction hBusy with
    ⟨c, db, hConnection, hOpen, hExists⟩
  rw [rollback_of_active_transaction hActive,
    run_bind_of_ok hExists, run_bind_of_ok (run_lift _ s)]
  -- ending the guard keeps what the engine says
  rcases World.endGuard_eq .transaction p s.world with
    ⟨transactions, savepoints, hSame⟩
  simp only [Quiet.update, hSame]
  refine Connection.rollback_sent
    (s := { s with
      world := { s.world with transactions, savepoints } })
    ?_ ?_
  · exact Option.isSome_iff_exists.mpr ⟨db, hOpen⟩
  · rw [← hBusy, hConnection]
    rfl

theorem rollback_savepoint_tried
    (hActive : s.world.active .savepoint p = some g)
    (hBusy : s.world.inTransaction g.connection = true) :
    ∃ sql, g.withdrawal.head? = some sql ∧
      (sql.length ≤ Statement.longestText →
        sql :: s.sent <:+
          ((GuardKind.savepoint.rollback p).run
            s).2.sent) := by
  rcases Session.open_of_inTransaction hBusy with
    ⟨c, db, _, hOpen, hExists⟩
  rcases rollback_of_active_savepoint hActive with
    ⟨name, hTexts, hRun⟩
  refine ⟨Savepoint.rollbackSql name, by rw [hTexts]; rfl,
    fun hFits => ?_⟩
  rw [hRun, run_bind_of_ok hExists]
  apply Connection.execute_bind_sent hOpen
    ⟨Savepoint.rollbackSql_not_blank name, hFits⟩
    (A := fun f => f = .compile ∨ f = .guard)
  intro _
  apply Attempt.Affects.bind
    (Connection.execute_affects c (.inl rfl) _)
  exact fun _ => .lift (Guards.change_affects (.inr rfl)
    (World.endGuard_eq .savepoint p))

theorem rollback_tried
    (hActive : s.world.active k p = some g)
    (hBusy : s.world.inTransaction g.connection = true) :
    ∃ sql, g.withdrawal.head? = some sql ∧
      (sql.length ≤ Statement.longestText →
        sql :: s.sent <:+ ((k.rollback p).run s).2.sent) := by
  cases k with
  | transaction =>
      refine ⟨_, ?_,
        fun _ => rollback_transaction_tried hActive hBusy⟩
      rcases World.active_transaction hActive with
        ⟨t, _, _, rfl⟩
      rfl
  | savepoint => exact rollback_savepoint_tried hActive hBusy

end GuardKind

------------------------------------------------------------
-- Responsibility
------------------------------------------------------------

namespace Session

/-
  Whether a guard is responsible for a transaction that is
  open:

    * `active`: it is active.
    * `retried`: each call that asks it to end sends its
      first text, unless that is too long.
    * `leaves`: each call by which it goes away sends its
      farewell and nothing else, or nothing if that is too
      long, and does not fail.
-/
structure Responsible
    (s : Session E)
    (k : GuardKind)
    (p : Place)
    (g : Guard) : Prop where
  active : s.world.active k p = some g
  retried : ∀ call : GuardCall,
    call.settles? = some (k, p) →
      ∃ sql, (call.texts s.world).getLast? = some sql ∧
        (sql.length ≤ Statement.longestText →
          sql :: s.sent <:+ (call.perform.run s).2.sent)
  leaves : ∀ call : GuardCall,
    call.removes? = some (k, p) →
      (call.perform.run s).1 = .ok () ∧
        (call.perform.run s).2.sent =
          if g.farewell.length ≤ Statement.longestText
            then g.farewell :: s.sent else s.sent

/-
  Whether a guard has nothing left to do:

    * `inactive`: it is not active.
    * `refused`: each call that asks it to end fails and does
      nothing.
    * `leaves`: each call by which it goes away sends nothing
      and does not fail.
-/
structure Relieved
    (s : Session E)
    (k : GuardKind)
    (p : Place) : Prop where
  inactive : s.world.active k p = none
  refused : ∀ call : GuardCall,
    call.settles? = some (k, p) →
      ∃ e, call.perform.run s = (.error e, s)
  leaves : ∀ call : GuardCall,
    call.removes? = some (k, p) →
      (call.perform.run s).1 = .ok () ∧
        (call.perform.run s).2.sent = s.sent

variable {s : Session E} {k : GuardKind} {p : Place}
variable {g : Guard}

/- The end of an active guard is tried. -/
theorem retries_of_active
    {call : GuardCall}
    (hActive : s.world.active k p = some g)
    (hBusy : s.world.inTransaction g.connection = true)
    (hEnds : call.settles? = some (k, p)) :
    ∃ sql, (call.texts s.world).getLast? = some sql ∧
      (sql.length ≤ Statement.longestText →
        sql :: s.sent <:+ (call.perform.run s).2.sent) := by
  cases call with
  | complete k' q =>
      cases hEnds
      refine ⟨g.completion, ?_,
        GuardKind.complete_tried hActive hBusy⟩
      simp [GuardCall.texts, hActive]
  | rollback k' q =>
      cases hEnds
      rcases GuardKind.rollback_tried hActive hBusy with
        ⟨sql, hFirst, hSent⟩
      refine ⟨sql, ?_, hSent⟩
      simpa [GuardCall.texts, hActive] using hFirst
  | _ => cases hEnds

/-
  An active guard is responsible while its connection has a
  transaction open.
-/
theorem responsible_of_active
    (hActive : s.world.active k p = some g)
    (hBusy : s.world.inTransaction g.connection = true) :
    s.Responsible k p g where
  active := hActive
  retried _ hEnds := retries_of_active hActive hBusy hEnds
  leaves _ hRemoves :=
    (GuardCall.leaves hRemoves hActive).imp_right
      (Guard.Leaves.sent_of_busy
        (GuardKind.farewell_not_blank hActive) hBusy)

/- A guard that is not active is not responsible. -/
theorem relieved_of_inactive
    (hInactive : s.world.active k p = none) :
    s.Relieved k p where
  inactive := hInactive
  refused call hEnds := by
    cases call <;> cases hEnds
    · exact GuardKind.complete_of_inactive hInactive
    · exact GuardKind.rollback_of_inactive hInactive
  leaves call hRemoves := by
    have hTexts : call.texts s.world = [] := by
      cases call with
      | assign k' source target =>
          simp only [GuardCall.removes?] at hRemoves
          split at hRemoves
          case isTrue => cases hRemoves
          case isFalse =>
            cases hRemoves
            simp [GuardCall.texts, hInactive]
      | destroy k' q =>
          cases hRemoves
          simp [GuardCall.texts, hInactive]
      | _ => cases hRemoves
    have hSends := call.sends s
    rw [hTexts] at hSends
    rcases hSends with ⟨l, hSent, hNone⟩
    rw [List.sublist_nil.mp hNone] at hSent
    refine ⟨?_, hSent⟩
    cases call with
    | assign => rfl
    | destroy => rfl
    | _ => cases hRemoves

end Session

------------------------------------------------------------
-- Ends That Fail
------------------------------------------------------------

/-
  If an end fails and leaves the transaction open, the guard
  is still responsible for it, unless it is the guard of a
  transaction that was asked to roll back: that one is
  relieved, and the transaction stays open without a guard.
-/
theorem GuardCall.responsible_after_failure
    {call : GuardCall}
    {k : GuardKind}
    {p : Place}
    {g : Guard}
    {s : Session E}
    (hEnds : call.settles? = some (k, p))
    (hActive : s.world.active k p = some g)
    (hFailed : (call.perform.run s).1.isOk = false)
    (hBusy :
      (call.perform.run s).2.world.inTransaction
        g.connection = true) :
    if call = .rollback .transaction p then
      (call.perform.run s).2.Relieved k p
    else
      (call.perform.run s).2.Responsible k p g := by
  split
  case isTrue hCall =>
    subst hCall
    cases hEnds
    apply Session.relieved_of_inactive
    -- what has no connection fails at once, with none open
    rcases Connection.requireExisting_cases g.connection s
      with ⟨c, _, hExists⟩ | ⟨e, hMissing⟩
    · have hEnded := GuardKind.rollback_ends_transaction
        hActive hExists
      simp only [perform, hEnded, World.active_endGuard,
        and_self, if_true]
    · have hRun := GuardKind.rollback_of_active_transaction
        hActive
      rw [run_bind_of_error hMissing] at hRun
      simp only [perform, hRun] at hBusy
      rcases Session.open_of_inTransaction hBusy with
        ⟨_, _, _, _, hExists⟩
      rw [hExists] at hMissing
      cases hMissing
  case isFalse hOther =>
    have hSame := failsSafely hEnds hOther s hFailed
    apply Session.responsible_of_active _ hBusy
    rw [hSame]
    exact hActive

namespace Session

/- An engine that refuses a text once. -/
def refusingEngine (sql : Bytes) : Engine.scripted.State :=
  ({ script :=
      { programs :=
          [{ sql
             runs :=
              [{ outcomes :=
                  [{ ending := .failed { code := 5 } }] }] }] } }
    : Scripted.State)

/- Open a connection and begin a transaction. -/
def beginOps : List Operation :=
  [.openConnection 0 []
      { foreignKeys := false, strictQuoting := false },
    .begin 0 0 .deferred]

/- A session in which a text will be refused. -/
def begunRefusing (sql : Bytes) : Session Engine.scripted :=
  ((start (refusingEngine sql) 10 {}).runAll beginOps).2

/- The guard of a commit that is refused is responsible. -/
theorem responsible_after_refused_commit :
    let s := begunRefusing (Bytes.ascii "COMMIT")
    let r :=
      (GuardCall.complete .transaction (.slot 0)).perform.run s
    r.1.isOk = false ∧
      r.2.Responsible .transaction (.slot 0)
        (Transaction.begun ⟨1⟩ .deferred) := by
  have hActive := World.active_of_transaction
    (w := (begunRefusing (Bytes.ascii "COMMIT")).world)
    (p := .slot 0)
    (t := { connection := some ⟨1⟩, type := .deferred
            active := true })
    (by decide +kernel) rfl
  have hEnds : (GuardCall.complete .transaction
      (.slot 0)).settles? = some (.transaction, .slot 0) :=
    rfl
  have hFailed : ((GuardCall.complete .transaction
      (.slot 0)).perform.run (begunRefusing
        (Bytes.ascii "COMMIT"))).1.isOk = false := by
    decide +kernel
  have hHolds := GuardCall.responsible_after_failure hEnds
    hActive hFailed (by decide +kernel)
  rw [if_neg (by decide)] at hHolds
  exact ⟨hFailed, hHolds⟩

/-
  Whether each active guard on an open connection stays
  active if an end fails and leaves its transaction open.
-/
def KeepsGuards (s : Session E) : Prop :=
  ∀ (call : GuardCall) (k : GuardKind) (p : Place)
    (g : Guard) (db : DatabaseHandle),
    call.settles? = some (k, p) →
    s.world.active k p = some g →
    s.world.handleOf g.connection = some db →
    (call.perform.run s).1.isOk = false →
    (call.perform.run s).2.world.inTransaction
      g.connection = true →
    (call.perform.run s).2.world.active k p = some g

/-
  A guard is not always kept: a rollback that is refused
  leaves the transaction open and its guard inactive.
-/
theorem inactive_after_refused_rollback :
    ¬ ∀ (engine : Engine.scripted.State)
        (patience : Nat)
        (log : Log)
        (ops : List Operation),
      ((start engine patience log).runAll
        ops).2.KeepsGuards := by
  intro hAll
  have hKeeps : (begunRefusing
      (Bytes.ascii "ROLLBACK")).KeepsGuards :=
    hAll _ 10 {} beginOps
  have hActive := World.active_of_transaction
    (w := (begunRefusing (Bytes.ascii "ROLLBACK")).world)
    (p := .slot 0)
    (t := { connection := some ⟨1⟩, type := .deferred
            active := true })
    (by decide +kernel) rfl
  have hStill := hKeeps (.rollback .transaction (.slot 0))
    .transaction (.slot 0) _ ⟨1⟩ rfl hActive
    (by decide +kernel) (by decide +kernel)
    (by decide +kernel)
  have hEnded : (((GuardCall.rollback .transaction
      (.slot 0)).perform.run (begunRefusing
        (Bytes.ascii "ROLLBACK"))).2.world.transactions.get?
          (.slot 0)).map (·.active) = some false := by
    decide +kernel
  rcases World.active_transaction hStill with
    ⟨t, hGuard, hState, _⟩
  rw [hGuard, Option.map_some, hState] at hEnded
  cases hEnded

end Session

end SqliteAccess
