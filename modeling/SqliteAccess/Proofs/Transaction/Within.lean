import SqliteAccess.Proofs.Transaction.Calls

/-
  Working inside a transaction is all or nothing.

  There are three things that can fail: the beginning, the
  work, and the commit.  Whichever fails first is reported,
  and a guard that is still active then rolls back.

  Key definitions include:
    * `Transaction.Unwinds`
    * `Transaction.AllOrNothing`

  The work is characterized by:
    * `Transaction.start_active`
    * `TransactionItem.performAll_active`
    * `Transaction.within_all_or_nothing`
-/

namespace SqliteAccess

variable {E : Engine}

open Quiet Attempt

------------------------------------------------------------
-- Beginning
------------------------------------------------------------

/- The guard of a transaction that was begun. -/
def Transaction.begun
    (c : ConnectionId)
    (type : TransactionType) : Guard :=
  Transaction.guard
    { connection := some c, type, active := true }

/- What is executed is executed on an open connection. -/
theorem Connection.isOpen_of_execute
    {c : ConnectionId}
    {sql : Bytes}
    {n : Int}
    {s t : Session E}
    (hRun : (execute c sql).run s = (.ok n, t)) :
    (s.world.connection c).isOpen = true := by
  cases hHandle : (s.world.connection c).handle with
  | some db => simp [isOpen, hHandle]
  | none =>
      rw [execute_of_closed hHandle] at hRun
      cases hRun

/- A transaction that was begun has an active guard. -/
theorem Transaction.start_active
    {c : ConnectionId}
    {p : Place}
    {type : TransactionType}
    {s t : Session E}
    (hRun : (start c p type).run s = (.ok (), t)) :
    t.world.active .transaction p = some (begun c type) ∧
      t.world.connections.contains c = true := by
  unfold start at hRun
  rcases run_bind_eq_ok.mp hRun with ⟨n, t', hDone, hKept⟩
  cases hKept
  constructor
  · show World.active _ _ _ = _
    rw [World.active_putTransaction rfl]
    exact if_pos ⟨rfl, rfl⟩
  · have hSame := (Connection.execute_affects
      (A := (· = .compile)) c rfl (beginSql type)
        s).keeps_connections (by simp)
    rw [hDone] at hSame
    show t'.world.connections.contains c = true
    rw [hSame.present]
    have hOpen := Connection.isOpen_of_execute hDone
    cases hHandle : (s.world.connection c).handle with
    | none => simp [Connection.isOpen, hHandle] at hOpen
    | some db =>
        rcases World.get?_of_connection_handle hHandle with
          ⟨conn, hFound, _⟩
        simp [Table.contains, hFound]

------------------------------------------------------------
-- Working
------------------------------------------------------------

namespace TransactionItem

variable {A : Effect → Prop} {p : Place}

theorem performAll_affects
    (hCompile : A .compile)
    (hGuard : A .guard)
    (c : ConnectionId)
    (p : Place)
    (body : List TransactionItem)
    (last : Int) :
    Attempt.Affects (E := E) A
      (performAll c p body last) := by
  induction body generalizing last with
  | nil => exact .pure last
  | cons item r ih =>
      cases item with
      | execute sql =>
          apply Attempt.Affects.bind
            (Connection.execute_affects c hCompile sql)
          exact ih
      | raise message => exact .throw _
      | commit =>
          apply Attempt.Affects.bind
            (Transaction.commit_affects hCompile hGuard p)
          exact fun _ => ih last
      | rollback =>
          apply Attempt.Affects.bind
            (Transaction.rollback_affects hCompile hGuard p)
          exact fun _ => ih last

/- A guard that is active after the work was so before. -/
theorem performAll_active
    {k : GuardKind}
    {q : Place}
    {g : Guard}
    {c : ConnectionId}
    {body : List TransactionItem}
    {last : Int}
    {s : Session E}
    (hActive :
      ((performAll c p body last).run s).2.world.active k q =
        some g) :
    s.world.active k q = some g := by
  induction body generalizing last s with
  | nil => exact hActive
  | cons item r ih =>
      -- an item that fails leaves the rest undone
      have hNext : ∀ {α : Type} {x : Attempt E α}
          (next : α → Int),
          (∀ g, (x.run s).2.world.active k q = some g →
            s.world.active k q = some g) →
          ((x >>= fun a => performAll c p r (next a)).run
            s).2.world.active k q = some g →
          s.world.active k q = some g := by
        intro α x next hItem hAfter
        cases hRun : x.run s with
        | mk result t =>
            rw [hRun] at hItem
            cases result with
            | ok a =>
                rw [run_bind_of_ok hRun] at hAfter
                exact hItem g (ih hAfter)
            | error e =>
                rw [run_bind_of_error hRun] at hAfter
                exact hItem g hAfter
      cases item with
      | execute sql =>
          refine hNext id (fun g hAfter => ?_) hActive
          rw [Connection.execute_guards] at hAfter
          exact hAfter
      | raise message => exact hActive
      | commit =>
          refine hNext (fun _ => last) (fun g hAfter => ?_)
            hActive
          exact GuardCall.active_of_settles
            (GuardKind.complete_settles .transaction p s)
            hAfter
      | rollback =>
          refine hNext (fun _ => last) (fun g hAfter => ?_)
            hActive
          exact GuardCall.active_of_settles
            (GuardKind.rollback_settles .transaction p s)
            hAfter

end TransactionItem

------------------------------------------------------------
-- Unwinding
------------------------------------------------------------

namespace Transaction

/-
  What follows a failure: one attempt to roll back if the
  guard is still active and the connection is open and says
  that a transaction is, and nothing otherwise.
-/
def Unwinds
    (c : ConnectionId)
    (t t' : Session E) : Prop :=
  t'.sent =
    if (t.world.active .transaction .scratch).isSome ∧
        t.world.inTransaction (some c) then
      Bytes.ascii "ROLLBACK" :: t.sent
    else t.sent

/- The guard of the work goes away after a failure. -/
theorem destroy_unwinds
    {c : ConnectionId}
    {t : Session E}
    (hActive : ∀ g,
      t.world.active .transaction .scratch = some g →
        g = begun c .deferred) :
    Unwinds c t (destroy .scratch t).2 := by
  have hSame : (destroy .scratch t).2 =
      (GuardKind.transaction.destroy .scratch t).2 := rfl
  unfold Unwinds
  cases hGuard : t.world.active .transaction .scratch with
  | none =>
      rw [if_neg (by simp), hSame, GuardKind.destroy_run,
        GuardKind.abandon_of_inactive hGuard]
      exact congrArg Trace.sent World.trace_dropGuard
  | some g =>
      cases hActive g hGuard
      let call : GuardCall := .destroy .transaction .scratch
      have hLeaves : (begun c .deferred).Leaves t
          (call.perform.run t).2 :=
        (GuardCall.leaves rfl hGuard).2
      split
      case isTrue hPending =>
        have hSent := hLeaves.sent_of_busy
          (GuardKind.farewell_not_blank hGuard) hPending.2
        exact hSent.trans (if_pos rollbackSql_sendable.fits)
      case isFalse hFree =>
        have hSays : t.world.inTransaction (some c) = false := by
          simpa using hFree
        exact hLeaves.sent_of_not_busy hSays

------------------------------------------------------------
-- All or Nothing
------------------------------------------------------------

/-
  How working inside a transaction ends, by how it began, how
  the work went in what was begun, and how the commit went in
  what was done:

    * `notBegun`: what failed to begin leaves nothing to do.
    * `workFailed`, `commitFailed`: the first failure is
      reported as it is, and the guard goes away.
    * `succeeded`: the commit is the last text that is sent,
      and what the work returned is returned.
    * `normally`: this is what it takes to succeed.
    * `ended`: a guard that the work has ended already fails
      to commit.
    * `committed`: a guard that is active commits as its
      connection does.
-/
structure AllOrNothing
    (c : ConnectionId)
    (returns : Bool)
    (begun : Except Failure Unit × Session E)
    (worked : Except Failure Int × Session E)
    (committed : Except Failure Unit × Session E)
    (r : Except Failure Reply × Session E) : Prop where
  notBegun : ∀ e, begun.1 = .error e →
    r = (.error e, begun.2)
  workFailed : ∀ e, begun.1 = .ok () →
    worked.1 = .error e →
      r.1 = .error e ∧ Unwinds c worked.2 r.2
  commitFailed : ∀ last e, begun.1 = .ok () →
    worked.1 = .ok last →
    committed.1 = .error e →
      r.1 = .error e ∧ Unwinds c committed.2 r.2
  succeeded : ∀ last, begun.1 = .ok () →
    worked.1 = .ok last →
    committed.1 = .ok () →
      r.1 =
          .ok (if returns then .number last else .nothing) ∧
        r.2.sent = Bytes.ascii "COMMIT" :: worked.2.sent
  normally : r.1.isOk ↔
    begun.1 = .ok () ∧ worked.1.isOk ∧
      (worked.2.world.active .transaction .scratch).isSome ∧
        ((Connection.execute c (Bytes.ascii "COMMIT")).run
          worked.2).1.isOk
  ended :
    worked.2.world.active .transaction .scratch = none →
      committed =
        (.error (.database Refusal.transactionEnded.error),
          worked.2)
  committed : begun.1 = .ok () →
    (worked.2.world.active .transaction .scratch).isSome →
      committed.1 =
        ((Connection.execute c (Bytes.ascii "COMMIT")).run
          worked.2).1.map fun _ => ()

/- What becomes of the work in a transaction that was begun. -/
theorem within_run
    {α : Type}
    {c : ConnectionId}
    {s t : Session E}
    (hBegun : (start c .scratch .deferred).run s =
      (.ok (), t))
    (work : Place → Attempt E α) :
    (within c work).run s =
      match (work .scratch).run t with
      | (.error e, t') =>
          (.error e, (destroy .scratch t').2)
      | (.ok a, t') =>
          match (commit .scratch).run t' with
          | (.error e, t'') =>
              (.error e, (destroy .scratch t'').2)
          | (.ok _, t'') =>
              (.ok a, (destroy .scratch t'').2) := by
  unfold within
  rw [run_bind_of_ok hBegun, run_ensuring, Attempt.run_bind]
  rcases (work .scratch).run t with ⟨worked, t'⟩
  cases worked with
  | error e => rfl
  | ok a =>
      simp only [Attempt.run_bind]
      rcases (commit .scratch).run t' with ⟨committed, t''⟩
      cases committed <;> rfl

/- A guard that is active commits as its connection does. -/
theorem commit_run
    {c : ConnectionId}
    {type : TransactionType}
    {t : Session E}
    (hActive :
      t.world.active .transaction .scratch =
        some (begun c type))
    (hExists : t.world.connections.contains c = true) :
    (commit .scratch).run t =
      (Connection.execute c (Bytes.ascii "COMMIT") >>=
        fun _ => lift (update
          (World.endGuard .transaction .scratch))).run t :=
  (GuardKind.complete_of_active hActive).trans
    (run_bind_of_ok
      (Connection.requireExisting_of_contains hExists))

/- What was committed was sent. -/
theorem commit_sent
    {c : ConnectionId}
    {type : TransactionType}
    {t t' : Session E}
    (hActive :
      t.world.active .transaction .scratch =
        some (begun c type))
    (hExists : t.world.connections.contains c = true)
    (hDone : (commit .scratch).run t = (.ok (), t')) :
    t'.sent = Bytes.ascii "COMMIT" :: t.sent := by
  rw [commit_run hActive hExists] at hDone
  rcases run_bind_eq_ok.mp hDone with ⟨n, u, hRun, hEnded⟩
  cases hEnded
  have hSent := Connection.execute_sent
    commitSql_sendable.text c t
  rw [hRun, if_pos ⟨Connection.isOpen_of_execute hRun,
    commitSql_sendable.fits⟩] at hSent
  rw [← hSent]
  exact congrArg Trace.sent World.trace_endGuard

/- A guard that is not active is refused to commit. -/
theorem commit_of_inactive
    {p : Place}
    {t : Session E}
    (hInactive : t.world.active .transaction p = none) :
    (commit p).run t =
      (.error (.database Refusal.transactionEnded.error), t) :=
  run_lift_require_of_false (lookup_of_inactive hInactive)

/- Who commits a guard that is active asks its connection. -/
theorem commit_result
    {c : ConnectionId}
    {type : TransactionType}
    {t : Session E}
    (hActive :
      t.world.active .transaction .scratch =
        some (begun c type))
    (hExists : t.world.connections.contains c = true) :
    ((commit .scratch).run t).1 =
      ((Connection.execute c (Bytes.ascii "COMMIT")).run
        t).1.map fun _ => () := by
  rw [commit_run hActive hExists, Attempt.run_bind]
  rcases (Connection.execute c (Bytes.ascii "COMMIT")).run t
    with ⟨result, t'⟩
  cases result <;> rfl

/-
  After the work the connection exists, and the guard is that
  of the transaction that was begun, if it is active.
-/
theorem guard_after_work
    {c : ConnectionId}
    {s t : Session E}
    (hBegun : (start c .scratch .deferred).run s =
      (.ok (), t))
    (body : List TransactionItem) :
    let t' := ((TransactionItem.performAll c .scratch body
      0).run t).2
    t'.world.connections.contains c = true ∧
      ∀ g, t'.world.active .transaction .scratch = some g →
        g = begun c .deferred := by
  rcases start_active hBegun with ⟨hActive, hExists⟩
  constructor
  · have hSame := (TransactionItem.performAll_affects
      (A := fun f => f = .compile ∨ f = .guard)
      (.inl rfl) (.inr rfl) c .scratch body 0
        t).keeps_connections (by simp)
    rw [hSame.present]
    exact hExists
  · intro g hAfter
    have hBefore := TransactionItem.performAll_active hAfter
    rw [hActive] at hBefore
    exact (Option.some.inj hBefore).symm

/-
  After the work a guard that is active commits as its
  connection does, and is ended then; one that is not active
  is refused.
-/
theorem commit_cases
    {c : ConnectionId}
    {t : Session E}
    (hExists : t.world.connections.contains c = true)
    (hGuard : ∀ g,
      t.world.active .transaction .scratch = some g →
        g = begun c .deferred) :
    let r := (commit .scratch).run t
    (t.world.active .transaction .scratch = none →
        r = (.error (.database Refusal.transactionEnded.error),
          t)) ∧
      ((t.world.active .transaction .scratch).isSome →
        r.1 =
          ((Connection.execute c (Bytes.ascii "COMMIT")).run
            t).1.map fun _ => ()) ∧
      (r.1 = .ok () →
        (t.world.active .transaction .scratch).isSome ∧
          r.2.world.active .transaction .scratch = none ∧
          r.2.sent = Bytes.ascii "COMMIT" :: t.sent) := by
  have hSettles :=
    GuardKind.complete_settles .transaction .scratch t
  have hActive :
      (t.world.active .transaction .scratch).isSome →
        t.world.active .transaction .scratch =
          some (begun c .deferred) := fun hIs => by
    rcases Option.isSome_iff_exists.mp hIs with ⟨g, hFound⟩
    rw [hFound, hGuard g hFound]
  refine ⟨commit_of_inactive,
    fun hIs => commit_result (hActive hIs) hExists, ?_⟩
  intro hOk
  rcases hSettles.done hOk with ⟨hIs, hOver⟩
  exact ⟨hIs, hOver,
    commit_sent (hActive hIs) hExists (Prod.ext hOk rfl)⟩

/- What a result is made of does not matter for being one. -/
theorem isOk_of_map_unit
    {α : Type}
    {x : Except Failure α}
    {y : Except Failure Unit}
    (hMap : y = x.map fun _ => ()) :
    x.isOk = y.isOk := by
  cases x <;> rw [hMap] <;> rfl

section

variable {c : ConnectionId} {body : List TransactionItem}
variable {returns : Bool} {s t t' t'' : Session E}

/- How work ends that fails in what was begun. -/
theorem allOrNothing_of_workFailed
    {e : Failure}
    (hBegun : (start c .scratch .deferred).run s =
      (.ok (), t))
    (hWorked : (TransactionItem.performAll c .scratch body
      0).run t = (.error e, t')) :
    AllOrNothing c returns (.ok (), t) (.error e, t')
      ((commit .scratch).run t')
      (((ConnectionRequest.withTransaction body
        returns).perform c).run s) := by
  have hWork := guard_after_work hBegun body
  have hWithin := within_run hBegun fun guard =>
    TransactionItem.performAll c guard body 0
  simp only [hWorked] at hWork hWithin
  rcases hWork with ⟨hExists, hGuard⟩
  rcases commit_cases hExists hGuard with
    ⟨hEnded, hCommits, _⟩
  have hRun : ((ConnectionRequest.withTransaction body
      returns).perform c).run s =
        (.error e, (destroy .scratch t').2) :=
    run_bind_of_error hWithin
  rw [hRun]
  exact
    { notBegun := fun _ hError => by cases hError
      workFailed := by
        intro _ _ hError
        cases hError
        exact ⟨rfl, destroy_unwinds hGuard⟩
      commitFailed := fun _ _ _ hOk _ => by cases hOk
      succeeded := fun _ _ hOk _ => by cases hOk
      normally :=
        ⟨fun hOk => (by cases hOk),
          fun hAll => (by cases hAll.2.1)⟩
      ended := hEnded
      committed := fun _ => hCommits }

/- How work ends that cannot be committed. -/
theorem allOrNothing_of_commitFailed
    {last : Int}
    {e : Failure}
    (hBegun : (start c .scratch .deferred).run s =
      (.ok (), t))
    (hWorked : (TransactionItem.performAll c .scratch body
      0).run t = (.ok last, t'))
    (hCommitted : (commit .scratch).run t' = (.error e, t'')) :
    AllOrNothing c returns (.ok (), t) (.ok last, t')
      (.error e, t'')
      (((ConnectionRequest.withTransaction body
        returns).perform c).run s) := by
  have hWork := guard_after_work hBegun body
  have hWithin := within_run hBegun fun guard =>
    TransactionItem.performAll c guard body 0
  simp only [hWorked, hCommitted] at hWork hWithin
  rcases hWork with ⟨hExists, hGuard⟩
  have hCases := commit_cases hExists hGuard
  have hSettles :=
    GuardKind.complete_settles .transaction .scratch t'
  have hSame : (GuardKind.transaction.complete .scratch).run
      t' = (.error e, t'') := hCommitted
  rw [hSame] at hSettles
  rw [hCommitted] at hCases
  rcases hCases with ⟨hEnded, hCommits, _⟩
  have hRun : ((ConnectionRequest.withTransaction body
      returns).perform c).run s =
        (.error e, (destroy .scratch t'').2) :=
    run_bind_of_error hWithin
  rw [hRun]
  exact
    { notBegun := fun _ hError => by cases hError
      workFailed := fun _ _ hError => by cases hError
      commitFailed := by
        intro _ _ _ _ hError
        cases hError
        refine ⟨rfl, destroy_unwinds fun g hActive => ?_⟩
        exact hGuard g
          (GuardCall.active_of_settles hSettles hActive)
      succeeded := fun _ _ _ hOk => by cases hOk
      normally := by
        refine ⟨fun hOk => (by cases hOk), fun hAll => ?_⟩
        have hDone := hAll.2.2.2
        rw [isOk_of_map_unit (hCommits hAll.2.2.1)] at hDone
        cases hDone
      ended := hEnded
      committed := fun _ => hCommits }

/- How work ends that is committed. -/
theorem allOrNothing_of_committed
    {last : Int}
    (hBegun : (start c .scratch .deferred).run s =
      (.ok (), t))
    (hWorked : (TransactionItem.performAll c .scratch body
      0).run t = (.ok last, t'))
    (hCommitted : (commit .scratch).run t' = (.ok (), t'')) :
    AllOrNothing c returns (.ok (), t) (.ok last, t')
      (.ok (), t'')
      (((ConnectionRequest.withTransaction body
        returns).perform c).run s) := by
  have hWork := guard_after_work hBegun body
  have hWithin := within_run hBegun fun guard =>
    TransactionItem.performAll c guard body 0
  simp only [hWorked, hCommitted] at hWork hWithin
  rcases hWork with ⟨hExists, hGuard⟩
  have hCases := commit_cases hExists hGuard
  rw [hCommitted] at hCases
  rcases hCases with ⟨hEnded, hCommits, hDone⟩
  rcases hDone rfl with ⟨hIs, hOver, hSent⟩
  have hRun : ((ConnectionRequest.withTransaction body
      returns).perform c).run s =
        (.ok (if returns then .number last else .nothing),
          (destroy .scratch t'').2) :=
    run_bind_of_ok hWithin
  -- the guard has ended, so that it goes away in silence
  have hGone : Unwinds c t'' (destroy .scratch t'').2 :=
    destroy_unwinds fun g hActive => by
      rw [hOver] at hActive
      cases hActive
  rw [Unwinds, if_neg (by simp [hOver])] at hGone
  rw [hRun]
  exact
    { notBegun := fun _ hError => by cases hError
      workFailed := fun _ _ hError => by cases hError
      commitFailed := fun _ _ _ _ hError => by cases hError
      succeeded := by
        intro _ _ hReturned _
        cases hReturned
        exact ⟨rfl, hGone.trans hSent⟩
      normally := by
        refine ⟨fun _ => ⟨rfl, rfl, hIs, ?_⟩, fun _ => rfl⟩
        exact isOk_of_map_unit (hCommits hIs)
      ended := hEnded
      committed := fun _ => hCommits }

end

/-
  Whatever the engine answers and whatever the work is,
  working inside a transaction is all or nothing, and the
  first failure is the one that is reported.
-/
theorem within_all_or_nothing
    (c : ConnectionId)
    (body : List TransactionItem)
    (returns : Bool)
    (s : Session E) :
    let begun := (start c .scratch .deferred).run s
    let worked :=
      (TransactionItem.performAll c .scratch body 0).run
        begun.2
    let committed := (commit .scratch).run worked.2
    AllOrNothing c returns begun worked committed
      (((ConnectionRequest.withTransaction body
        returns).perform c).run s) := by
  intro begun worked committed
  rcases hBegun : begun with ⟨first, t⟩
  cases first with
  | error e =>
      have hRun : ((ConnectionRequest.withTransaction body
          returns).perform c).run s = (.error e, t) :=
        run_bind_of_error (run_bind_of_error hBegun)
      rw [hRun]
      exact
        { notBegun := fun _ hError => by cases hError; rfl
          workFailed := fun _ hOk _ => by cases hOk
          commitFailed := fun _ _ hOk _ _ => by cases hOk
          succeeded := fun _ hOk _ _ => by cases hOk
          normally :=
            ⟨fun hOk => (by cases hOk),
              fun hAll => (by cases hAll.1)⟩
          ended := commit_of_inactive
          committed := fun hOk => by cases hOk }
  | ok _ =>
      have hStart : begun.2 = t := by rw [hBegun]
      have hWorks : worked = (TransactionItem.performAll c
          .scratch body 0).run t := by
        simp only [worked, hStart]
      rcases hWorked : worked with ⟨second, t'⟩
      rw [hWorked] at hWorks
      have hCommits :
          committed = (commit .scratch).run t' := by
        simp only [committed, hWorked]
      cases second with
      | error e =>
          rw [hCommits]
          exact allOrNothing_of_workFailed hBegun hWorks.symm
      | ok last =>
          rcases hCommitted : committed with ⟨third, t''⟩
          rw [hCommitted] at hCommits
          cases third with
          | error e =>
              exact allOrNothing_of_commitFailed hBegun
                hWorks.symm hCommits.symm
          | ok _ =>
              exact allOrNothing_of_committed hBegun
                hWorks.symm hCommits.symm

end Transaction

end SqliteAccess
