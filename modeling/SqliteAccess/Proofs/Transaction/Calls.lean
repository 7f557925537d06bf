import SqliteAccess.Proofs.Transaction.Guards

/-
  The calls that are made on guards, and what each of them
  does to the active ones.

  Only an active guard sends anything, and every text at most
  once.

  Key definitions include:
    * `GuardCall`
    * `GuardCall.perform`
    * `GuardCall.speaker?`
    * `GuardCall.texts`
    * `GuardCall.origin`

  The calls are characterized by:
    * `GuardCall.sends`
    * `GuardCall.active_after`
    * `GuardCall.settled`
    * `GuardCall.leaves`
-/

namespace SqliteAccess

variable {E : Engine}

open Quiet Attempt

------------------------------------------------------------
-- Texts
------------------------------------------------------------

/- A text that starts with a word is not blank. -/
theorem Blank.isBlank_append
    {a : Bytes}
    (hLong : 2 ≤ a.length)
    (hFirst : Blank.length a = 0)
    (b : Bytes) :
    isBlank (a ++ b) = false := by
  match a, hLong with
  | x :: y :: r, _ =>
      have hLength : Blank.length (x :: y :: r ++ b) = 0 := by
        simp only [Blank.length, Blank.lengthFrom,
          List.cons_append] at hFirst ⊢
        split at hFirst
        · omega
        · split at hFirst
          · omega
          · split at hFirst
            · omega
            · rename_i hSpace hLine hBlock
              simp [hSpace, hLine, hBlock]
      unfold isBlank
      rw [hLength]
      rfl

theorem Savepoint.startSql_not_blank (name : Bytes) :
    Blank.isBlank (startSql name) = false :=
  Blank.isBlank_append (by decide +kernel)
    (by decide +kernel) name

theorem Savepoint.releaseSql_not_blank (name : Bytes) :
    Blank.isBlank (releaseSql name) = false :=
  Blank.isBlank_append (by decide +kernel)
    (by decide +kernel) name

theorem Savepoint.rollbackSql_not_blank (name : Bytes) :
    Blank.isBlank (rollbackSql name) = false :=
  Blank.isBlank_append (by decide +kernel)
    (by decide +kernel) name

theorem Transaction.beginSql_not_blank
    (type : TransactionType) :
    Blank.isBlank (beginSql type) = false := by
  cases type <;> decide +kernel

theorem Transaction.commitSql_sendable :
    Statement.Sendable (Bytes.ascii "COMMIT") :=
  ⟨by decide +kernel, by decide +kernel⟩

theorem Transaction.rollbackSql_sendable :
    Statement.Sendable (Bytes.ascii "ROLLBACK") :=
  ⟨by decide +kernel, by decide +kernel⟩

/-
  Whether a session has sent at most certain texts, each once
  and the latest first.
-/
def Session.Sends
    (l : List Bytes)
    (s s' : Session E) : Prop :=
  ∃ l', s'.sent = l' ++ s.sent ∧ l'.Sublist l

namespace Session.Sends

variable {l l' : List Bytes} {s s' s'' : Session E}

theorem of_eq
    (hSame : s'.sent = s.sent) :
    s.Sends l s' :=
  ⟨[], hSame, List.nil_sublist l⟩

theorem refl (s : Session E) : s.Sends l s :=
  of_eq rfl

theorem trans
    (hFirst : s.Sends l s')
    (hSecond : s'.Sends l' s'') :
    s.Sends (l' ++ l) s'' := by
  rcases hFirst with ⟨m, hSent, hSub⟩
  rcases hSecond with ⟨m', hSent', hSub'⟩
  refine ⟨m' ++ m, ?_, hSub'.append hSub⟩
  rw [hSent', hSent, List.append_assoc]

/- What is done in silence sends nothing more. -/
theorem silent
    (hSends : s.Sends l s')
    (hSame : s''.sent = s'.sent) :
    s.Sends l s'' := by
  rcases hSends with ⟨m, hSent, hSub⟩
  exact ⟨m, hSame.trans hSent, hSub⟩

/- Sending more texts is allowed. -/
theorem mono
    (hMore : l.Sublist l')
    (hSends : s.Sends l s') :
    s.Sends l' s' := by
  rcases hSends with ⟨m, hSent, hSub⟩
  exact ⟨m, hSent, hSub.trans hMore⟩

end Session.Sends

/- Whether an attempt sends at most certain texts. -/
def Attempt.Sends
    {α : Type}
    (l : List Bytes)
    (x : Attempt E α) : Prop :=
  ∀ s : Session E, s.Sends l (x.run s).2

namespace Attempt.Sends

variable {α β : Type} {l l' : List Bytes}
variable {x : Attempt E α} {k : α → Attempt E β}

/- What does not compile sends nothing. -/
theorem nothing
    {A : Effect → Prop}
    (hCompile : ¬ A .compile)
    (hAffects : Attempt.Affects A x) :
    Sends [] x :=
  fun s => .of_eq ((hAffects s).keeps_sent hCompile)

theorem pure (a : α) :
    Sends [] (pure a : Attempt E α) :=
  fun s => .refl s

theorem bind
    (h : Sends l x)
    (hNext : ∀ a, Sends l' (k a)) :
    Sends (l' ++ l) (x >>= k) := by
  intro s
  have hFirst := h s
  rw [Attempt.run_bind]
  rcases hRun : x.run s with ⟨result, t⟩
  rw [hRun] at hFirst
  cases result with
  | ok a => exact hFirst.trans (hNext a t)
  | error e =>
      exact hFirst.mono (List.sublist_append_right l' l)

end Attempt.Sends

/- Executing a text sends at most this text. -/
theorem Connection.execute_sends
    {sql : Bytes}
    (hText : Blank.isBlank sql = false)
    (c : ConnectionId) :
    Attempt.Sends (E := E) [sql] (execute c sql) := by
  intro s
  have hSent := execute_sent hText c s
  split at hSent
  · exact ⟨[sql], hSent, List.Sublist.refl _⟩
  · exact .of_eq hSent

/- Executing a text changes no guard. -/
theorem Connection.execute_guards
    (c : ConnectionId)
    (sql : Bytes)
    (s : Session E) :
    ((execute c sql).run s).2.world.active =
      s.world.active := by
  have hKept := (execute_affects (A := (· = .compile)) c rfl
    sql s).keeps_guards (by simp)
  exact World.active_congr hKept.1 hKept.2

/- A connection that exists is found. -/
theorem Connection.requireExisting_of_contains
    {c : ConnectionId}
    {s : Session E}
    (hFound : s.world.connections.contains c = true) :
    (requireExisting (some c)).run s = (.ok c, s) := by
  unfold requireExisting
  rw [run_bind_of_ok (run_lift _ s)]
  simp [existing, Quiet.run_bind, Quiet.read, hFound]

/- One that is gone is refused. -/
theorem Connection.requireExisting_of_missing
    {c : ConnectionId}
    {s : Session E}
    (hMissing : s.world.connections.contains c = false) :
    (requireExisting (some c)).run s =
      (.error (.database Refusal.connectionDestroyed.error),
        s) := by
  unfold requireExisting
  rw [run_bind_of_ok (run_lift _ s)]
  simp [existing, Quiet.run_bind, Quiet.read, hMissing]

/- A connection that is needed is there, or it is refused. -/
theorem Connection.requireExisting_cases
    (c : Option ConnectionId)
    (s : Session E) :
    (∃ id, c = some id ∧
        (requireExisting c).run s = (.ok id, s)) ∨
      ∃ e, (requireExisting c).run s = (.error e, s) := by
  cases c with
  | none => exact .inr ⟨_, rfl⟩
  | some id =>
      cases hFound : s.world.connections.contains id with
      | true =>
          exact .inl ⟨id, rfl,
            requireExisting_of_contains hFound⟩
      | false =>
          exact .inr ⟨_, requireExisting_of_missing hFound⟩

------------------------------------------------------------
-- Calls on Guards of a Kind
------------------------------------------------------------

namespace GuardKind

/- Keep what was done under a guard. -/
def complete (k : GuardKind) (p : Place) : Attempt E Unit :=
  match k with
  | transaction => Transaction.commit p
  | savepoint => Savepoint.release p

/- Undo what was done under a guard. -/
def rollback (k : GuardKind) (p : Place) : Attempt E Unit :=
  match k with
  | transaction => Transaction.rollback p
  | savepoint => Savepoint.rollback p

/- Move a guard to a place that is free. -/
def move
    (k : GuardKind)
    (source target : Place) : Quiet E Unit :=
  match k with
  | transaction => Transaction.move source target
  | savepoint => Savepoint.move source target

/- Move a guard over another one. -/
def assign
    (k : GuardKind)
    (source target : Place) : Quiet E Unit :=
  match k with
  | transaction => Transaction.assign source target
  | savepoint => Savepoint.assign source target

/- Destroy a guard. -/
def destroy (k : GuardKind) (p : Place) : Quiet E Unit :=
  match k with
  | transaction => Transaction.destroy p
  | savepoint => Savepoint.destroy p

variable {k k' : GuardKind} {p q source target : Place}
variable {s : Session E} {g : Guard}

theorem move_eq :
    k.move (E := E) source target =
      update (World.moveGuard k source target) := by
  cases k <;> rfl

theorem destroy_eq :
    k.destroy (E := E) p =
      (k.abandon p >>= fun _ =>
        update (World.dropGuard k p)) := by
  cases k <;> rfl

theorem assign_eq
    (hOther : source ≠ target) :
    k.assign (E := E) source target =
      (k.abandon target >>= fun _ =>
        update (World.moveGuard k source target)) := by
  cases k
  · exact if_neg hOther
  · exact if_neg hOther

/- What is destroyed is abandoned and forgotten. -/
theorem destroy_run :
    (k.destroy p s).2 =
      { (k.abandon p s).2 with
        world :=
          (k.abandon p s).2.world.dropGuard k p } := by
  rw [destroy_eq]
  rfl

/- What is overwritten is abandoned first. -/
theorem assign_run
    (hOther : source ≠ target) :
    (k.assign source target s).2 =
      { (k.abandon target s).2 with
        world :=
          (k.abandon target s).2.world.moveGuard k source
            target } := by
  rw [assign_eq hOther]
  rfl

/- Moving a guard over itself changes nothing. -/
theorem assign_self :
    k.assign p p s = ((), s) := by
  cases k
  · exact congrFun (if_pos rfl) s
  · exact congrFun (if_pos rfl) s

------------------------------------------------------------
-- Abandoning
------------------------------------------------------------

/- What an active guard sends is never blank. -/
theorem completion_not_blank
    (hActive : s.world.active k p = some g) :
    Blank.isBlank g.completion = false := by
  cases k with
  | transaction =>
      rcases World.active_transaction hActive with
        ⟨t, _, _, rfl⟩
      exact Transaction.commitSql_sendable.text
  | savepoint =>
      rcases World.active_savepoint hActive with
        ⟨t, _, _, rfl⟩
      exact Savepoint.releaseSql_not_blank t.name

theorem farewell_not_blank
    (hActive : s.world.active k p = some g) :
    Blank.isBlank g.farewell = false := by
  cases k with
  | transaction =>
      rcases World.active_transaction hActive with
        ⟨t, _, _, rfl⟩
      exact Transaction.rollbackSql_sendable.text
  | savepoint =>
      rcases World.active_savepoint hActive with
        ⟨t, _, _, rfl⟩
      exact Savepoint.releaseSql_not_blank t.name

/- A guard that is abandoned is active no more. -/
theorem abandon_guards
    (k : GuardKind)
    (p : Place)
    (s : Session E) :
    (k.abandon p s).2.world.active =
        (s.world.endGuard k p).active ∧
      (k.abandon p s).2.world.hasGuard =
        s.world.hasGuard := by
  cases hActive : s.world.active k p with
  | none =>
      rw [abandon_of_inactive hActive]
      refine ⟨?_, rfl⟩
      funext k' q
      rw [World.active_endGuard]
      split
      case isTrue hSame => rw [hSame.1, hSame.2, hActive]
      case isFalse => rfl
  | some g =>
      rw [abandon_of_active hActive]
      exact Guard.leave_guards

/- A guard that is abandoned leaves if it is active. -/
theorem abandon_leaves
    (hActive : s.world.active k p = some g) :
    g.Leaves s (k.abandon p s).2 := by
  rw [abandon_of_active hActive]
  exact Guard.leave_leaves

theorem abandon_sends
    (k : GuardKind)
    (p : Place)
    (s : Session E) :
    s.Sends ((s.world.active k p).map (·.farewell)).toList
      (k.abandon p s).2 := by
  cases hActive : s.world.active k p with
  | none =>
      rw [abandon_of_inactive hActive]
      exact .refl s
  | some g =>
      have hLeaves := abandon_leaves hActive
      cases hBusy : s.world.inTransaction g.connection with
      | true =>
          have hSent := hLeaves.sent_of_busy
            (farewell_not_blank hActive) hBusy
          split at hSent
          · exact ⟨[g.farewell], hSent, List.Sublist.refl _⟩
          · exact .of_eq hSent
      | false =>
          exact .of_eq (hLeaves.sent_of_not_busy hBusy)

------------------------------------------------------------
-- Ending on Request
------------------------------------------------------------

/- Only an active guard can be completed. -/
theorem complete_of_inactive
    (hInactive : s.world.active k p = none) :
    ∃ e, (k.complete p).run s = (.error e, s) := by
  cases k with
  | transaction =>
      have hEnded := Transaction.lookup_of_inactive hInactive
      exact ⟨_, run_lift_require_of_false hEnded⟩
  | savepoint =>
      have hEnded := Savepoint.lookup_of_inactive hInactive
      exact ⟨_, run_lift_require_of_false hEnded⟩

/- Only an active guard can be rolled back. -/
theorem rollback_of_inactive
    (hInactive : s.world.active k p = none) :
    ∃ e, (k.rollback p).run s = (.error e, s) := by
  cases k with
  | transaction =>
      have hEnded := Transaction.lookup_of_inactive hInactive
      exact ⟨_, run_lift_require_of_false hEnded⟩
  | savepoint =>
      have hEnded := Savepoint.lookup_of_inactive hInactive
      exact ⟨_, run_lift_require_of_false hEnded⟩

/- Completing sends one text and then ends the guard. -/
theorem complete_of_active
    (hActive : s.world.active k p = some g) :
    (k.complete p).run s =
      (Connection.requireExisting g.connection >>= fun c =>
        Connection.execute c g.completion >>= fun _ =>
          lift (update (World.endGuard k p))).run s := by
  cases k with
  | transaction =>
      rcases World.active_transaction hActive with
        ⟨t, hGuard, hState, rfl⟩
      exact run_lift_require_of_eq
        (Transaction.lookup_of_guard hGuard) hState
  | savepoint =>
      rcases World.active_savepoint hActive with
        ⟨t, hGuard, hState, rfl⟩
      exact run_lift_require_of_eq
        (Savepoint.lookup_of_guard hGuard) hState

/- Rolling back a transaction ends its guard first. -/
theorem rollback_of_active_transaction
    (hActive : s.world.active .transaction p = some g) :
    (GuardKind.transaction.rollback p).run s =
      (Connection.requireExisting g.connection >>= fun c =>
        lift (update (World.endGuard .transaction p)) >>=
          fun _ => Connection.isAutocommit c >>= fun idle =>
            if ! idle then
              Connection.execute c (Bytes.ascii "ROLLBACK") >>=
                fun _ => pure ()
            else pure ()).run s := by
  rcases World.active_transaction hActive with
    ⟨t, hGuard, hState, rfl⟩
  exact run_lift_require_of_eq
    (Transaction.lookup_of_guard hGuard) hState

/- Rolling back a savepoint ends its guard at last. -/
theorem rollback_of_active_savepoint
    (hActive : s.world.active .savepoint p = some g) :
    ∃ name,
      g.withdrawal =
        [Savepoint.rollbackSql name,
          Savepoint.releaseSql name] ∧
      (GuardKind.savepoint.rollback p).run s =
        (Connection.requireExisting g.connection >>= fun c =>
          Connection.execute c (Savepoint.rollbackSql name) >>=
            fun _ =>
              Connection.execute c
                (Savepoint.releaseSql name) >>= fun _ =>
                  lift (update
                    (World.endGuard .savepoint p))).run s := by
  rcases World.active_savepoint hActive with
    ⟨t, hGuard, hState, rfl⟩
  exact ⟨t.name, rfl, run_lift_require_of_eq
    (Savepoint.lookup_of_guard hGuard) hState⟩

/-
  What becomes of the guards when one of them is asked to end
  itself.  It may stay active if that fails, and does not if
  that succeeds.
-/
structure Settles
    (k : GuardKind)
    (p : Place)
    (s : Session E)
    (r : Except Failure Unit × Session E) : Prop where
  either :
    r.2.world.active = s.world.active ∨
      r.2.world.active = (s.world.endGuard k p).active
  done : r.1 = .ok () →
    (s.world.active k p).isSome ∧
      r.2.world.active k p = none

namespace Settles

/- A failure that leaves the guards alone. -/
theorem failed
    {e : Failure}
    {s' : Session E}
    (hActive : s'.world.active = s.world.active) :
    k.Settles p s (.error e, s') where
  either := .inl hActive
  done := nofun

/- A guard that is ended, whatever the result. -/
theorem ended
    {result : Except Failure Unit}
    {s' : Session E}
    (hActive : s.world.active k p = some g)
    (hEnded :
      s'.world.active = (s.world.endGuard k p).active) :
    k.Settles p s (result, s') where
  either := .inr hEnded
  done := by
    intro _
    refine ⟨by rw [hActive]; rfl, ?_⟩
    rw [hEnded, World.active_endGuard, if_pos ⟨rfl, rfl⟩]

end Settles

/- Ending a guard after the last text was sent. -/
theorem execute_end_settles
    {t : Session E}
    (hActive : s.world.active k p = some g)
    (hSame : t.world.active = s.world.active)
    (c : ConnectionId)
    (sql : Bytes) :
    k.Settles p s
      ((Connection.execute c sql >>= fun _ =>
        lift (update (World.endGuard k p))).run t) := by
  have hGuards := Connection.execute_guards c sql t
  rw [hSame] at hGuards
  rw [Attempt.run_bind]
  rcases hRun : (Connection.execute c sql).run t with
    ⟨result, t'⟩
  rw [hRun] at hGuards
  cases result with
  | error e => exact .failed hGuards
  | ok n =>
      exact .ended hActive
        (World.active_endGuard_congr hGuards)

theorem complete_settles
    (k : GuardKind)
    (p : Place)
    (s : Session E) :
    k.Settles p s ((k.complete p).run s) := by
  cases hActive : s.world.active k p with
  | none =>
      rcases complete_of_inactive hActive with ⟨e, hRun⟩
      rw [hRun]
      exact .failed rfl
  | some g =>
      rw [complete_of_active hActive]
      rcases Connection.requireExisting_cases g.connection s
        with ⟨c, _, hRun⟩ | ⟨e, hRun⟩
      · rw [run_bind_of_ok hRun]
        exact execute_end_settles hActive rfl c _
      · rw [run_bind_of_error hRun]
        exact .failed rfl

/-
  A transaction that is rolled back on a connection that
  exists is ended, whatever the engine says.
-/
theorem rollback_ends_transaction
    {c : ConnectionId}
    (hActive : s.world.active .transaction p = some g)
    (hExists :
      (Connection.requireExisting g.connection).run s =
        (.ok c, s)) :
    ((GuardKind.transaction.rollback p).run
        s).2.world.active =
      (s.world.endGuard .transaction p).active := by
  rw [rollback_of_active_transaction hActive,
    run_bind_of_ok hExists,
    run_bind_of_ok (run_lift _ s)]
  -- the guard is ended, and what follows keeps guards
  let t : Session E :=
    { s with
      world := s.world.endGuard .transaction p }
  have hRest : Attempt.Affects (· = .compile)
      (Connection.isAutocommit (E := E) c >>= fun idle =>
        if ! idle then
          Connection.execute c (Bytes.ascii "ROLLBACK") >>=
            fun _ => pure ()
        else pure ()) := by
    apply Attempt.Affects.bind
    · exact Connection.isAutocommit_affects c
    intro idle
    apply Attempt.Affects.ite
    · exact (Connection.execute_affects
        (A := (· = .compile)) c rfl _).map
    · exact .pure ()
  have hKept := (hRest t).keeps_guards (by simp)
  exact World.active_congr hKept.1 hKept.2

theorem rollback_settles
    (k : GuardKind)
    (p : Place)
    (s : Session E) :
    k.Settles p s ((k.rollback p).run s) := by
  cases hActive : s.world.active k p with
  | none =>
      rcases rollback_of_inactive hActive with ⟨e, hRun⟩
      rw [hRun]
      exact .failed rfl
  | some g =>
      rcases Connection.requireExisting_cases g.connection s
        with ⟨c, _, hExists⟩ | ⟨e, hExists⟩
      case inr =>
        cases k with
        | transaction =>
            rw [rollback_of_active_transaction hActive,
              run_bind_of_error hExists]
            exact .failed rfl
        | savepoint =>
            rcases rollback_of_active_savepoint hActive with
              ⟨name, _, hRun⟩
            rw [hRun, run_bind_of_error hExists]
            exact .failed rfl
      cases k with
      | transaction =>
          exact .ended hActive
            (rollback_ends_transaction hActive hExists)
      | savepoint =>
          rcases rollback_of_active_savepoint hActive with
            ⟨name, _, hRun⟩
          rw [hRun, run_bind_of_ok hExists, Attempt.run_bind]
          have hGuards := Connection.execute_guards c
            (Savepoint.rollbackSql name) s
          rcases hUndone : (Connection.execute c
            (Savepoint.rollbackSql name)).run s with
              ⟨result, t⟩
          rw [hUndone] at hGuards
          cases result with
          | error e => exact .failed hGuards
          | ok n => exact execute_end_settles hActive hGuards c _

------------------------------------------------------------
-- Texts of Ending
------------------------------------------------------------

/- Ending a guard sends nothing. -/
theorem endGuard_sends :
    Attempt.Sends (E := E) []
      (lift (update (World.endGuard k p))) := by
  apply Attempt.Sends.nothing (A := (· = .guard)) (by simp)
  apply Attempt.Affects.lift
  exact Guards.change_affects (A := (· = .guard)) rfl
    (World.endGuard_eq k p)

theorem requireExisting_sends
    (c : Option ConnectionId) :
    Attempt.Sends (E := E) []
      (Connection.requireExisting c) :=
  .nothing (A := fun _ => False) id
    (Connection.requireExisting_affects c)

theorem complete_sends
    (k : GuardKind)
    (p : Place)
    (s : Session E) :
    s.Sends
      ((s.world.active k p).map (·.completion)).toList
      ((k.complete p).run s).2 := by
  cases hActive : s.world.active k p with
  | none =>
      rcases complete_of_inactive hActive with ⟨e, hRun⟩
      rw [hRun]
      exact .refl s
  | some g =>
      rw [complete_of_active hActive]
      exact (requireExisting_sends _).bind
        (fun c => (Connection.execute_sends
          (completion_not_blank hActive) c).bind
            fun _ => endGuard_sends) s

theorem rollback_sends
    (k : GuardKind)
    (p : Place)
    (s : Session E) :
    s.Sends
      ((s.world.active k p).toList.flatMap
        (·.withdrawal.reverse))
      ((k.rollback p).run s).2 := by
  cases hActive : s.world.active k p with
  | none =>
      rcases rollback_of_inactive hActive with ⟨e, hRun⟩
      rw [hRun]
      exact .refl s
  | some g =>
      cases k with
      | transaction =>
          rcases World.active_transaction hActive with
            ⟨t, _, _, rfl⟩
          rw [rollback_of_active_transaction hActive]
          have hAsked : ∀ c, Attempt.Sends (E := E) []
              (Connection.isAutocommit c) := fun c =>
            .nothing (A := fun _ => False) id
              (Connection.isAutocommit_affects c)
          have hRest : ∀ (c : ConnectionId) (idle : Bool),
              Attempt.Sends (E := E) [Bytes.ascii "ROLLBACK"]
                (if ! idle then
                  Connection.execute c
                    (Bytes.ascii "ROLLBACK") >>= fun _ =>
                      pure ()
                else pure ()) := by
            intro c idle
            cases idle with
            | true => exact fun s => .refl s
            | false =>
                exact (Connection.execute_sends
                  Transaction.rollbackSql_sendable.text c).bind
                    fun _ => .pure ()
          exact (requireExisting_sends _).bind
            (fun c => endGuard_sends.bind fun _ =>
              (hAsked c).bind (hRest c)) s
      | savepoint =>
          rcases rollback_of_active_savepoint hActive with
            ⟨name, hTexts, hRun⟩
          have hUndone := Connection.execute_sends (E := E)
            (Savepoint.rollbackSql_not_blank name)
          have hReleased := Connection.execute_sends (E := E)
            (Savepoint.releaseSql_not_blank name)
          rw [hRun]
          have hAll := (requireExisting_sends g.connection).bind
            (fun c => (hUndone c).bind fun _ =>
              (hReleased c).bind fun _ =>
                endGuard_sends (k := .savepoint) (p := p)) s
          simpa [hTexts] using hAll

end GuardKind

------------------------------------------------------------
-- Calls
------------------------------------------------------------

/-
  A call on a guard.  The first three construct one: of a
  transaction, or of a savepoint inside the transaction of
  another guard or directly on a connection.
-/
inductive GuardCall where
  | begin
      (c : ConnectionId)
      (p : Place)
      (type : TransactionType)
  | nest (t p : Place) (name : Bytes)
  | nestOn (c : ConnectionId) (p : Place) (name : Bytes)
  | complete (k : GuardKind) (p : Place)
  | rollback (k : GuardKind) (p : Place)
  | move (k : GuardKind) (source target : Place)
  | assign (k : GuardKind) (source target : Place)
  | destroy (k : GuardKind) (p : Place)
  deriving DecidableEq

namespace GuardCall

/- Carry out a call. -/
def perform : GuardCall → Attempt E Unit
  | begin c p type => Transaction.start c p type
  | nest t p name => Transaction.savepoint t p name
  | nestOn c p name => Savepoint.start c p name
  | complete k p => k.complete p
  | rollback k p => k.rollback p
  | move k source target => lift (k.move source target)
  | assign k source target => lift (k.assign source target)
  | destroy k p => lift (k.destroy p)

/- The guard that a call constructs. -/
def creates? : GuardCall → Option (GuardKind × Place)
  | begin _ p _ => some (.transaction, p)
  | nest _ p _ => some (.savepoint, p)
  | nestOn _ p _ => some (.savepoint, p)
  | _ => none

/-
  The guard that a call is made on.  A guard that is moved
  over another one speaks through the other one, which goes
  away.
-/
def speaker? : GuardCall → Option (GuardKind × Place)
  | begin .. => none
  | nest t _ _ => some (.transaction, t)
  | nestOn .. => none
  | complete k p => some (k, p)
  | rollback k p => some (k, p)
  | move k source _ => some (k, source)
  | assign k _ target => some (k, target)
  | destroy k p => some (k, p)

/- The guard that goes away by a call. -/
def removes? : GuardCall → Option (GuardKind × Place)
  | assign k source target =>
      if source = target then none else some (k, target)
  | destroy k p => some (k, p)
  | _ => none

/- The guard that a call asks to end itself. -/
def settles? : GuardCall → Option (GuardKind × Place)
  | complete k p => some (k, p)
  | rollback k p => some (k, p)
  | _ => none

/- The texts that a call may send, the latest first. -/
def texts (w : World E) : GuardCall → List Bytes
  | begin _ _ type => [Transaction.beginSql type]
  | nest t _ name =>
      if (w.active .transaction t).isSome then
        [Savepoint.startSql name]
      else []
  | nestOn _ _ name => [Savepoint.startSql name]
  | complete k p =>
      ((w.active k p).map (·.completion)).toList
  | rollback k p =>
      (w.active k p).toList.flatMap (·.withdrawal.reverse)
  | move .. => []
  | assign k source target =>
      if source = target then []
      else ((w.active k target).map (·.farewell)).toList
  | destroy k p =>
      ((w.active k p).map (·.farewell)).toList

/- Where a guard was before a call. -/
def origin
    (w : World E)
    (k : GuardKind)
    (q : Place) : GuardCall → Place
  | move k' source target => w.movedFrom k' source target k q
  | assign k' source target =>
      w.movedFrom k' source target k q
  | _ => q

variable {call : GuardCall} {s : Session E}
variable {k : GuardKind} {p q q' : Place} {g g' : Guard}

/- A guard that is not active may send nothing. -/
theorem texts_of_inactive
    (hSpeaker : call.speaker? = some (k, p))
    (hInactive : s.world.active k p = none) :
    call.texts s.world = [] := by
  cases call <;> cases hSpeaker <;>
    simp [texts, hInactive]

------------------------------------------------------------
-- Sending
------------------------------------------------------------

/- Constructing a savepoint sends one text. -/
theorem start_sends
    (c : ConnectionId)
    (p : Place)
    (name : Bytes) :
    Attempt.Sends (E := E) [Savepoint.startSql name]
      (Savepoint.start c p name) := by
  have hRequired : Attempt.Sends (E := E) []
      (require (Savepoint.acceptsName name)
        (.savepointName name)) :=
    .nothing (A := fun _ => False) id (.require _ _)
  have hKept : Attempt.Sends (E := E) []
      (lift (update fun w =>
        { w with
          savepoints := w.savepoints.put p
            { connection := some c, name
              active := true } })) := by
    apply Attempt.Sends.nothing (A := (· = .guard)) (by simp)
    apply Attempt.Affects.lift
    exact Guards.change_affects (A := (· = .guard)) rfl
      fun w => ⟨w.transactions, _, rfl⟩
  exact hRequired.bind fun _ =>
    (Connection.execute_sends
      (Savepoint.startSql_not_blank name) c).bind
        fun _ => hKept

/- A call sends the texts that it may, each at most once. -/
theorem sends
    (call : GuardCall)
    (s : Session E) :
    s.Sends (call.texts s.world) (call.perform.run s).2 := by
  cases call with
  | begin c p type =>
      have hKept : Attempt.Sends (E := E) []
          (lift (update fun w =>
            { w with
              transactions := w.transactions.put p
                { connection := some c, type
                  active := true } })) := by
        apply Attempt.Sends.nothing (A := (· = .guard))
          (by simp)
        apply Attempt.Affects.lift
        exact Guards.change_affects (A := (· = .guard)) rfl
          fun w => ⟨_, w.savepoints, rfl⟩
      exact (Connection.execute_sends
        (Transaction.beginSql_not_blank type) c).bind
          (fun _ => hKept) s
  | nest t p name =>
      cases hActive : s.world.active .transaction t with
      | none =>
          have hEnded := Transaction.lookup_of_inactive
            hActive
          have hRun : (Transaction.savepoint t p name).run s =
              (.error (.database
                Refusal.savepointOutside.error), s) :=
            run_lift_require_of_false hEnded
          simp only [perform, hRun]
          exact .refl s
      | some g =>
          have hRequired : ∀ c, Attempt.Sends (E := E) []
              (require c .savepointOutside) := fun c =>
            .nothing (A := fun _ => False) id (.require _ _)
          have hRead : Attempt.Sends (E := E) []
              (lift (Transaction.lookup t)) :=
            .nothing (A := fun _ => False) id (.read _)
          have hAll := hRead.bind (fun guard =>
            (hRequired guard.active).bind fun _ =>
              (GuardKind.requireExisting_sends
                guard.connection).bind fun c =>
                  start_sends c p name) s
          have hTexts : texts s.world (nest t p name) =
              [Savepoint.startSql name] := by
            simp [texts, hActive]
          rw [hTexts]
          exact hAll
  | nestOn c p name => exact start_sends c p name s
  | complete k p => exact k.complete_sends p s
  | rollback k p => exact k.rollback_sends p s
  | move k source target =>
      simp only [perform, run_lift]
      rw [GuardKind.move_eq]
      exact .of_eq (congrArg Trace.sent World.trace_moveGuard)
  | assign k source target =>
      by_cases hSame : source = target
      · subst hSame
        simp only [perform, run_lift, GuardKind.assign_self]
        exact .refl s
      · have hSends := k.abandon_sends target s
        simp only [perform, run_lift, texts, if_neg hSame]
        rw [GuardKind.assign_run hSame]
        exact hSends.silent
          (congrArg Trace.sent World.trace_moveGuard)
  | destroy k p =>
      have hSends := k.abandon_sends p s
      simp only [perform, run_lift]
      rw [GuardKind.destroy_run]
      exact hSends.silent
        (congrArg Trace.sent World.trace_dropGuard)

------------------------------------------------------------
-- Active Guards
------------------------------------------------------------

/-
  A guard that is kept once its text was executed is active
  then, if the call returns; otherwise nothing has changed.
-/
theorem create_active
    {f : World E → World E}
    {k₀ : GuardKind}
    {g₀ : Guard}
    (hPut : ∀ w k q, (f w).active k q =
      if k = k₀ ∧ q = p then some g₀ else w.active k q)
    (c : ConnectionId)
    (sql : Bytes)
    (hActive :
      ((Connection.execute c sql >>= fun _ =>
        lift (update f)).run s).2.world.active k q =
          some g) :
    ((k, q) = (k₀, p) ∧
        ((Connection.execute c sql >>= fun _ =>
          lift (update f)).run s).1 = .ok ()) ∨
      s.world.active k q = some g := by
  have hGuards := Connection.execute_guards c sql s
  rw [Attempt.run_bind] at hActive ⊢
  rcases hRun : (Connection.execute c sql).run s with
    ⟨result, t⟩
  rw [hRun] at hGuards hActive
  cases result with
  | error e =>
      rw [← hGuards]
      exact .inr hActive
  | ok n =>
      have hPlaced : (f t.world).active k q = some g := hActive
      rw [hPut] at hPlaced
      split at hPlaced
      case isTrue hSame =>
        exact .inl ⟨Prod.ext hSame.1 hSame.2, rfl⟩
      case isFalse =>
        rw [← hGuards]
        exact .inr hPlaced

/- Constructing a savepoint on a connection. -/
theorem start_active
    {c : ConnectionId}
    {name : Bytes}
    (hActive :
      ((Savepoint.start c p name).run s).2.world.active k q =
        some g) :
    ((k, q) = (.savepoint, p) ∧
        ((Savepoint.start c p name).run s).1 = .ok ()) ∨
      s.world.active k q = some g := by
  unfold Savepoint.start at hActive ⊢
  by_cases hValid : Savepoint.acceptsName name = true
  case neg =>
    rw [run_bind_of_error (run_require_of_false
      (Bool.eq_false_iff.2 hValid) _ s)] at hActive
    exact .inr hActive
  rw [run_bind_of_ok
    (run_require_of_true hValid _ s)] at hActive ⊢
  exact create_active
    (fun _ _ _ => World.active_putSavepoint rfl) c _ hActive

/-
  A savepoint inside the transaction of an active guard is
  made on its connection.
-/
theorem nest_of_active
    {t : Place}
    {name : Bytes}
    (hActive : s.world.active .transaction t = some g) :
    (Transaction.savepoint t p name).run s =
      (Connection.requireExisting g.connection >>= fun c =>
        Savepoint.start c p name).run s := by
  rcases World.active_transaction hActive with
    ⟨guard, hGuard, hState, rfl⟩
  exact run_lift_require_of_eq
    (Transaction.lookup_of_guard hGuard) hState

/-
  A savepoint inside a transaction is refused, or made on the
  connection of an active guard.
-/
theorem nest_cases
    (t p : Place)
    (name : Bytes)
    (s : Session E) :
    (∃ e, (Transaction.savepoint t p name).run s =
        (.error e, s)) ∨
      ∃ g c, s.world.active .transaction t = some g ∧
        g.connection = some c ∧
          (Transaction.savepoint t p name).run s =
            (Savepoint.start c p name).run s := by
  cases hActive : s.world.active .transaction t with
  | none =>
      have hEnded := Transaction.lookup_of_inactive hActive
      exact .inl ⟨_, run_lift_require_of_false hEnded⟩
  | some g =>
      rw [nest_of_active hActive]
      rcases Connection.requireExisting_cases
          g.connection s with ⟨c, hOn, hFound⟩ |
          ⟨e, hMissing⟩
      · exact .inr ⟨g, c, rfl, hOn, run_bind_of_ok hFound⟩
      · exact .inl ⟨e, run_bind_of_error hMissing⟩

/- A guard that is active after another was asked to end. -/
theorem active_of_settles
    {k₀ : GuardKind}
    {r : Except Failure Unit × Session E}
    (hSettles : k₀.Settles p s r)
    (hActive : r.2.world.active k q = some g) :
    s.world.active k q = some g := by
  rcases hSettles.either with hSame | hEnded
  · rw [← hSame]
    exact hActive
  · rw [hEnded, World.active_endGuard] at hActive
    split at hActive
    · cases hActive
    · exact hActive

/- A guard that is active after another was abandoned. -/
theorem active_of_abandon
    {k₀ : GuardKind}
    (hActive :
      (k₀.abandon p s).2.world.active k q = some g) :
    ¬ (k = k₀ ∧ q = p) ∧ s.world.active k q = some g := by
  rw [(k₀.abandon_guards p s).1,
    World.active_endGuard] at hActive
  split at hActive
  case isTrue => cases hActive
  case isFalse hOther => exact ⟨hOther, hActive⟩

/-
  A guard that is active after a call was just constructed,
  or was active before it.
-/
theorem active_after
    (hActive :
      (call.perform.run s).2.world.active k q = some g) :
    (call.creates? = some (k, q) ∧
        (call.perform.run s).1 = .ok ()) ∨
      s.world.active k (call.origin s.world k q) =
        some g := by
  cases call with
  | begin c p type =>
      have hCreated := create_active
        (fun _ _ _ => World.active_putTransaction rfl) c _
          hActive
      exact hCreated.imp_left fun h => ⟨by rw [h.1]; rfl, h.2⟩
  | nest t p name =>
      simp only [perform] at hActive ⊢
      rcases nest_cases t p name s with
        ⟨e, hRun⟩ | ⟨_, c, _, _, hRun⟩
      · rw [hRun] at hActive
        exact .inr hActive
      · rw [hRun] at hActive ⊢
        have hCreated := start_active hActive
        exact hCreated.imp_left fun h =>
          ⟨by rw [h.1]; rfl, h.2⟩
  | nestOn c p name =>
      have hCreated := start_active hActive
      exact hCreated.imp_left fun h => ⟨by rw [h.1]; rfl, h.2⟩
  | complete k' p =>
      exact .inr (active_of_settles (k'.complete_settles p s)
        hActive)
  | rollback k' p =>
      exact .inr (active_of_settles (k'.rollback_settles p s)
        hActive)
  | move k' source target =>
      simp only [perform, run_lift, GuardKind.move_eq,
        Quiet.update] at hActive
      exact .inr (World.active_of_moveGuard hActive).1
  | assign k' source target =>
      right
      simp only [perform, run_lift] at hActive
      by_cases hSame : source = target
      · subst hSame
        rw [GuardKind.assign_self] at hActive
        have hOrigin : origin s.world k q
            (assign k' source source) = q := by
          simp only [origin, World.movedFrom]
          split
          case isTrue hMoved => exact hMoved.2.1.symm
          case isFalse => rfl
        rw [hOrigin]
        exact hActive
      · rw [GuardKind.assign_run hSame] at hActive
        have hMoved := (World.active_of_moveGuard hActive).1
        have hPlaces := (k'.abandon_guards target s).2
        simp only [World.movedFrom, hPlaces] at hMoved
        exact (active_of_abandon hMoved).2
  | destroy k' p =>
      simp only [perform, run_lift,
        GuardKind.destroy_run] at hActive
      rw [World.active_dropGuard] at hActive
      split at hActive
      · cases hActive
      · exact .inr (active_of_abandon hActive).2

/- Different active guards have come from different places. -/
theorem origin_injective
    (hActive :
      (call.perform.run s).2.world.active k q = some g)
    (hActive' :
      (call.perform.run s).2.world.active k q' = some g')
    (hSame : call.origin s.world k q =
      call.origin s.world k q') :
    q = q' := by
  -- only a guard that is moved comes from another place
  have hMoves : ∀ {w : World E} {k₀ : GuardKind}
      {source target : Place},
      w.hasGuard k₀ source = s.world.hasGuard k₀ source →
      (w.moveGuard k₀ source target).active k q = some g →
      (w.moveGuard k₀ source target).active k q' = some g' →
      s.world.movedFrom k₀ source target k q =
        s.world.movedFrom k₀ source target k q' →
      q = q' := by
    intro w k₀ source target hPlaces hActive hActive' hSame
    have hLeft := (World.active_of_moveGuard hActive).2
    have hLeft' := (World.active_of_moveGuard hActive').2
    rw [hPlaces] at hLeft hLeft'
    simp only [World.movedFrom] at hSame
    split at hSame <;> split at hSame <;> grind
  cases call with
  | move k₀ source target =>
      simp only [perform, run_lift, GuardKind.move_eq,
        Quiet.update] at hActive hActive'
      exact hMoves rfl hActive hActive' hSame
  | assign k₀ source target =>
      simp only [perform, run_lift] at hActive hActive'
      by_cases hSelf : source = target
      · subst hSelf
        simp only [origin, World.movedFrom] at hSame
        split at hSame <;> split at hSame <;> grind
      · rw [GuardKind.assign_run hSelf] at hActive hActive'
        have hPlaces := (k₀.abandon_guards target s).2
        exact hMoves (congrFun₂ hPlaces k₀ source) hActive
          hActive' hSame
  | _ => exact hSame

------------------------------------------------------------
-- Guards That End
------------------------------------------------------------

/- A guard that has ended itself was active and is no more. -/
theorem settled
    (hSettles : call.settles? = some (k, p))
    (hDone : (call.perform.run s).1 = .ok ()) :
    (s.world.active k p).isSome ∧
      (call.perform.run s).2.world.active k p = none := by
  cases call <;> cases hSettles
  · exact (k.complete_settles p s).done hDone
  · exact (k.rollback_settles p s).done hDone

/- An active guard that goes away leaves without failing. -/
theorem leaves
    (hRemoves : call.removes? = some (k, p))
    (hActive : s.world.active k p = some g) :
    (call.perform.run s).1 = .ok () ∧
      g.Leaves s (call.perform.run s).2 := by
  cases call with
  | assign k' source target =>
      simp only [removes?] at hRemoves
      split at hRemoves
      case isTrue => cases hRemoves
      case isFalse hOther =>
        cases hRemoves
        refine ⟨rfl, ?_⟩
        simp only [perform, run_lift]
        rw [GuardKind.assign_run hOther]
        exact (GuardKind.abandon_leaves hActive).congr
          World.trace_moveGuard rfl
  | destroy k' p =>
      cases hRemoves
      refine ⟨rfl, ?_⟩
      simp only [perform, run_lift]
      rw [GuardKind.destroy_run]
      exact (GuardKind.abandon_leaves hActive).congr
        World.trace_dropGuard rfl
  | _ => cases hRemoves

/- A guard that goes away is not active anywhere. -/
theorem removed
    (hRemoves : call.removes? = some (k, p))
    (hOrigin : call.origin s.world k q = p) :
    (call.perform.run s).2.world.active k q = none := by
  cases hActive :
      (call.perform.run s).2.world.active k q with
  | none => rfl
  | some g =>
      exfalso
      cases call with
      | assign k' source target =>
          simp only [removes?] at hRemoves
          split at hRemoves
          case isTrue => cases hRemoves
          case isFalse hOther =>
            cases hRemoves
            simp only [perform, run_lift,
              GuardKind.assign_run hOther] at hActive
            have hMoved := (World.active_of_moveGuard
              hActive).1
            have hSame : (k.abandon p s).2.world.movedFrom k
                source p k q = p := by
              unfold World.movedFrom
              rw [(k.abandon_guards p s).2]
              exact hOrigin
            exact (active_of_abandon hMoved).1 ⟨rfl, hSame⟩
      | destroy k' p' =>
          cases hRemoves
          have hSame : q = p := hOrigin
          subst hSame
          simp only [perform, run_lift,
            GuardKind.destroy_run] at hActive
          simp at hActive
      | _ => cases hRemoves

end GuardCall

end SqliteAccess
